import DexMethod.Proofs.Declaration.Dispatch
import DexMethod.Proofs.Declaration.Lead
import DexMethod.Proofs.Prototype.Arguments
import Mathlib.Logic.Basic

/-!
# What the flags of a method decide

Two methods that differ in their flags only are compared, whatever else they have in common. Main
statement: each answer depends on the bits of its own mask and on no others. Under the mask of the
modifiers every bit is told by the line of source, since the modifiers stand in front of a text
that both lines share; of the flags that make a method direct only it counts whether there is one.
-/

namespace DexMethod
open Access (Target)

namespace Declaration

variable {d e : Declaration}

theorem modifierText_eq_iff :
    d.modifierText = e.modifierText ↔
      d.flags.bits &&& 0x31DFF#32 = e.flags.bits &&& 0x31DFF#32 := by
  rw [← Target.mask_method, ← Access.Word.modifiers_eq_iff, ← Access.Word.modifierLine_eq_iff,
    modifierText_eq_lead, modifierText_eq_lead]
  exact ⟨lead_inj, congrArg lead⟩

/-- What stands behind the modifiers is cancelled, so it may look like modifiers itself. -/
theorem source_eq_iff_modifierText (name : d.name = e.name)
    (returnType : d.returnType = e.returnType) (parameters : d.parameters = e.parameters) :
    d.source = e.source ↔ d.modifierText = e.modifierText := by
  unfold source parameterText
  rw [name, returnType, parameters]
  simp only [String.append_left_inj]

theorem isDirect_iff_bits : d.isDirect = true ↔ d.flags.bits &&& 0x1000A#32 ≠ 0 := by
  rw [isDirect, Access.Word.intersects_iff, directFlags_bits]

theorem staticFlag_bits : (Access.Word.ofFlags [.accStatic]).bits = 0x8#32 := by decide

theorem isStatic_iff_bits : d.isStatic = true ↔ d.flags.bits &&& 0x8#32 ≠ 0 := by
  rw [isStatic, decide_eq_true_iff, ← staticFlag_bits, Access.Word.and_ofFlags_ne_zero_iff]
  simp only [List.mem_singleton, exists_eq_left]

theorem isStatic_eq_iff_bits :
    d.isStatic = e.isStatic ↔ d.flags.bits &&& 0x8#32 = e.flags.bits &&& 0x8#32 := by
  rw [← staticFlag_bits, Access.Word.and_ofFlags_eq_iff, isStatic, isStatic, decide_eq_decide]
  simp only [List.mem_singleton, forall_eq]

theorem isDirect_eq_of_bits
    (h : d.flags.bits &&& 0x1000A#32 = e.flags.bits &&& 0x1000A#32) : d.isDirect = e.isDirect := by
  rw [Bool.eq_iff_iff, isDirect_iff_bits, isDirect_iff_bits, h]

theorem isDirect_ne_iff :
    d.isDirect ≠ e.isDirect ↔
      Xor (d.flags.bits &&& 0x1000A#32 = 0) (e.flags.bits &&& 0x1000A#32 = 0) := by
  rw [xor_iff_not_iff, ne_eq, Bool.eq_iff_iff, isDirect_iff_bits, isDirect_iff_bits, not_iff_not]
  exact not_iff_not

theorem isVirtual_ne_iff : d.isVirtual ≠ e.isVirtual ↔ d.isDirect ≠ e.isDirect := by
  rw [isVirtual, isVirtual, ne_eq, Bool.not_inj_iff]

theorem callRegisters_eq (d : Declaration) :
    d.callRegisters = argumentRegisters d.parameterTypes true + if d.isStatic then 0 else 1 := by
  unfold callRegisters
  cases d.isStatic with
  | true => rfl
  | false => exact argumentRegisters_false d.parameterTypes

theorem callRegisters_eq_iff (h : d.parameterTypes = e.parameterTypes) :
    d.callRegisters = e.callRegisters ↔ d.isStatic = e.isStatic := by
  rw [callRegisters_eq, callRegisters_eq, h]
  cases d.isStatic <;> cases e.isStatic <;> simp

theorem callRegisters_succ (h : d.parameterTypes = e.parameterTypes)
    (there : d.flags.bits &&& 0x8#32 ≠ 0) (missing : e.flags.bits &&& 0x8#32 = 0) :
    d.callRegisters + 1 = e.callRegisters := by
  have static : d.isStatic = true := isStatic_iff_bits.mpr there
  have bound : e.isStatic = false := by
    rw [← Bool.not_eq_true, isStatic_iff_bits]
    exact fun other => other missing
  rw [callRegisters_eq, callRegisters_eq, h, static, bound]
  rfl

end Declaration

namespace Method

variable {m n : Method}

/-- Wherever the two methods are split by dispatch, they come to the same side. -/
def SidesAgree (m n : Method) : Prop :=
  ∀ l k : List Method, m ∈ l → n ∈ k →
    (m ∈ (splitByDispatch declaration l).1 ↔ n ∈ (splitByDispatch declaration k).1) ∧
    (m ∈ (splitByDispatch declaration l).2 ↔ n ∈ (splitByDispatch declaration k).2)

/-- Wherever the two methods are split by dispatch, they come to different sides. -/
def SidesDiffer (m n : Method) : Prop :=
  ∀ l k : List Method, m ∈ l → n ∈ k →
    (m ∈ (splitByDispatch declaration l).1 ↔ n ∈ (splitByDispatch declaration k).2) ∧
    (m ∈ (splitByDispatch declaration l).2 ↔ n ∈ (splitByDispatch declaration k).1)

theorem sidesAgree_of_isDirect (h : m.declaration.isDirect = n.declaration.isDirect) :
    m.SidesAgree n := by
  intro l k hm hn
  simp only [mem_splitByDispatch_fst, mem_splitByDispatch_snd, hm, hn, true_and,
    Declaration.isVirtual, h]

theorem sidesDiffer_iff : m.SidesDiffer n ↔ m.declaration.isDirect ≠ n.declaration.isDirect := by
  constructor
  · intro h
    have sides := (h [m] [n] (by simp) (by simp)).1
    simp only [mem_splitByDispatch_fst, mem_splitByDispatch_snd, List.mem_singleton, true_and,
      Declaration.isVirtual, Bool.not_eq_true'] at sides
    intro same
    simp [same] at sides
  · intro h l k hm hn
    have flipped : m.declaration.isDirect = !n.declaration.isDirect := Bool.eq_not.mpr h
    simp only [mem_splitByDispatch_fst, mem_splitByDispatch_snd, hm, hn, true_and,
      Declaration.isVirtual, flipped, Bool.not_not]

/-- Call sites see no flags; the line of source shows the bits of the modifiers, the registers the
static bit, and dispatch whether any of three bits is there. -/
theorem answers_eq_iff_masked (f g : BitVec 32) (name : String) (returnType : Descriptor)
    (parameters : List Parameter) :
    let m : Method := ⟨⟨f⟩, name, returnType, parameters⟩
    let n : Method := ⟨⟨g⟩, name, returnType, parameters⟩
    let oneDirect : Prop := Xor (f &&& 0x1000A#32 = 0) (g &&& 0x1000A#32 = 0)
    (m.declaration.shorty = n.declaration.shorty ∧
      m.declaration.isConstructor = n.declaration.isConstructor ∧
      m.reference = n.reference ∧ m.reference.display = n.reference.display) ∧
    (m.source = n.source ↔ f &&& 0x31DFF#32 = g &&& 0x31DFF#32) ∧
    (m.declaration.callRegisters = n.declaration.callRegisters ↔
      f &&& 0x8#32 = g &&& 0x8#32) ∧
    (f &&& 0x8#32 ≠ 0 → g &&& 0x8#32 = 0 →
      m.declaration.callRegisters + 1 = n.declaration.callRegisters) ∧
    (f &&& 0x8#32 = 0 → g &&& 0x8#32 ≠ 0 →
      n.declaration.callRegisters + 1 = m.declaration.callRegisters) ∧
    (f &&& 0x1000A#32 = g &&& 0x1000A#32 →
      m.declaration.isDirect = n.declaration.isDirect ∧
        m.declaration.isVirtual = n.declaration.isVirtual ∧ m.SidesAgree n) ∧
    (m.declaration.isDirect ≠ n.declaration.isDirect ↔ oneDirect) ∧
    (m.declaration.isVirtual ≠ n.declaration.isVirtual ↔ oneDirect) ∧
    (m.SidesDiffer n ↔ oneDirect) := by
  intro m n oneDirect
  have dispatch : m.declaration.isDirect ≠ n.declaration.isDirect ↔ oneDirect :=
    Declaration.isDirect_ne_iff
  have line : m.source = n.source ↔ m.declaration.modifierText = n.declaration.modifierText :=
    Declaration.source_eq_iff_modifierText (d := m.declaration) (e := n.declaration) rfl rfl rfl
  have registers : m.declaration.callRegisters = n.declaration.callRegisters ↔
      m.declaration.isStatic = n.declaration.isStatic :=
    Declaration.callRegisters_eq_iff (d := m.declaration) (e := n.declaration) rfl
  refine ⟨⟨rfl, rfl, rfl, rfl⟩, line.trans Declaration.modifierText_eq_iff,
    registers.trans Declaration.isStatic_eq_iff_bits, ?_, ?_, ?_, dispatch,
    Declaration.isVirtual_ne_iff.trans dispatch, sidesDiffer_iff.trans dispatch⟩
  · exact Declaration.callRegisters_succ (d := m.declaration) (e := n.declaration) rfl
  · intro missing there
    exact Declaration.callRegisters_succ (d := n.declaration) (e := m.declaration) rfl there missing
  · intro agree
    have direct : m.declaration.isDirect = n.declaration.isDirect :=
      Declaration.isDirect_eq_of_bits agree
    exact ⟨direct, congrArg not direct, sidesAgree_of_isDirect direct⟩

/-- Private for static changes the line and the registers but not the side; a bit without a name
changes nothing, and what follows the modifiers may start with one. -/
theorem answers_eq_iff_masked_private :
    let method (bits : BitVec 32) : Method := ⟨⟨bits⟩, "public (", ⟨"static "⟩, [⟨⟨"J"⟩, none⟩]⟩
    let m := method 0x9
    let n := method 0x80000003
    let k := method 0x80008009
    m.source ≠ n.source ∧ m.declaration.callRegisters + 1 = n.declaration.callRegisters ∧
      ¬ m.SidesDiffer n ∧ m.source = k.source ∧ m.SidesAgree k ∧ m.SidesDiffer (method 0x1) := by
  intro method m n k
  obtain ⟨-, lines, -, fewer, -, -, -, -, sides⟩ :=
    answers_eq_iff_masked 0x9 0x80000003 "public (" ⟨"static "⟩ [⟨⟨"J"⟩, none⟩]
  obtain ⟨-, same, -, -, -, agree, -⟩ :=
    answers_eq_iff_masked 0x9 0x80008009 "public (" ⟨"static "⟩ [⟨⟨"J"⟩, none⟩]
  obtain ⟨-, -, -, -, -, -, -, -, apart⟩ :=
    answers_eq_iff_masked 0x9 0x1 "public (" ⟨"static "⟩ [⟨⟨"J"⟩, none⟩]
  refine ⟨?_, fewer (by decide) (by decide), ?_, same.mpr (by decide), (agree (by decide)).2.2,
    apart.mpr (by simp [Xor])⟩
  · intro equal
    exact absurd (lines.mp equal) (by decide)
  · intro differ
    exact absurd (sides.mp differ) (by simp [Xor])

end Method

end DexMethod
