import DexMethod.Access.Stored
import DexMethod.Declaration.Source
import DexMethod.Proofs.Declaration.Dispatch

/-!
# What a stored declaration tells

A call asks for the prototype of a method, its text and its dispatch for the flags and the
parameters. The flags are asked for by name only, so it makes no difference that a stored word
has lost the bits without one.
-/

namespace DexMethod
open Access (Flag)

/-- No question about a call has another answer. -/
structure Reference.CalledAlike (r s : Reference) : Prop where
  isConstructor : r.isConstructor = s.isConstructor
  shorty : r.shorty = s.shorty
  registers : ∀ isStatic, r.registers isStatic = s.registers isStatic

namespace Declaration

/-- No question about flags or text has another answer. -/
structure DeclaredAlike (d e : Declaration) : Prop where
  isDirect : d.isDirect = e.isDirect
  isVirtual : d.isVirtual = e.isVirtual
  isAbstract : d.isAbstract = e.isAbstract
  isDefault : d.isDefault = e.isDefault
  isStatic : d.isStatic = e.isStatic
  source : d.source = e.source

variable {d e : Declaration}

theorem isDirect_congr (h : ∀ f : Flag, f ∈ d.flags ↔ f ∈ e.flags) : d.isDirect = e.isDirect := by
  apply Bool.eq_iff_iff.mpr
  rw [isDirect_iff, isDirect_iff]
  simp only [h]

theorem source_congr (h : ∀ f : Flag, f ∈ d.flags ↔ f ∈ e.flags) (name : d.name = e.name)
    (returnType : d.returnType = e.returnType) (parameters : d.parameters = e.parameters) :
    d.source = e.source := by
  have modifiers : d.flags.modifiers .method = e.flags.modifiers .method :=
    Access.Word.modifiers_congr fun f _ => h f
  unfold source modifierText parameterText
  rw [modifiers, name, returnType, parameters]

/-- Words with the same names in them make no difference to a declaration. -/
theorem declaredAlike_of_mem (h : ∀ f : Flag, f ∈ d.flags ↔ f ∈ e.flags) (name : d.name = e.name)
    (returnType : d.returnType = e.returnType) (parameters : d.parameters = e.parameters) :
    d.DeclaredAlike e where
  isDirect := isDirect_congr h
  isVirtual := congrArg not (isDirect_congr h)
  isAbstract := decide_eq_decide.mpr (h _)
  isDefault := decide_eq_decide.mpr (h _)
  isStatic := decide_eq_decide.mpr (h _)
  source := source_congr h name returnType parameters

theorem isStatic_eq_getLsbD (d : Declaration) : d.isStatic = d.flags.bits.getLsbD 3 :=
  Bool.decide_eq_true

/-- A declaration with a stored word is called as its prototype says and written as its parameters
say, each without regard to the other, and the bits that the word has lost are missed nowhere. If
the parameters have the types of the prototype, it answers like the method with all bits. -/
theorem alike_of_flags_ofStored (d : Declaration) (raw : BitVec 32)
    (h : d.flags = (Access.Word.ofStored raw).value) :
    let r : Reference := ⟨⟨d.returnType, d.parameterTypes⟩, d.name⟩
    let m : Method := ⟨⟨raw⟩, d.name, d.returnType, d.parameters⟩
    d.CalledAlike r ∧
    (∀ others, d.CalledAlike { d with parameters := others }.toReference) ∧
    d.DeclaredAlike m.declaration ∧
    (∀ types, d.DeclaredAlike { d with parameterTypes := types }) ∧
    d.callRegisters = r.registers (raw.getLsbD 3) ∧
    (d.parameterTypes = d.parameters.map Parameter.type →
      d.CalledAlike m.declaration.toReference ∧ d.CalledAlike m.reference ∧
        d.DeclaredAlike m.declaration ∧ d.callRegisters = m.declaration.callRegisters) := by
  intro r m
  have called : d.CalledAlike r := ⟨rfl, rfl, fun _ => rfl⟩
  have named (f : Flag) : f ∈ d.flags ↔ f ∈ m.declaration.flags := by
    rw [h]
    exact Access.Word.mem_truncate
  have declared : d.DeclaredAlike m.declaration := declaredAlike_of_mem named rfl rfl rfl
  refine ⟨called, fun _ => called, declared, ?_, ?_, ?_⟩
  · intro types
    exact declaredAlike_of_mem (fun _ => Iff.rfl) rfl rfl rfl
  · calc
      d.callRegisters = r.registers d.isStatic := rfl
      _ = r.registers (raw.getLsbD 3) := by rw [declared.isStatic, isStatic_eq_getLsbD]; rfl
  · intro types
    have reference : m.reference = r := by
      rw [Reference.mk.injEq, Prototype.mk.injEq]
      exact ⟨⟨rfl, types.symm⟩, rfl⟩
    have known : d.CalledAlike m.reference := by rwa [reference]
    refine ⟨known, known, declared, ?_⟩
    calc
      d.callRegisters = r.registers d.isStatic := rfl
      _ = m.reference.registers m.declaration.isStatic := by rw [reference, declared.isStatic]
      _ = m.declaration.callRegisters := rfl

/-- Bit 31 has no name: it is not in the word of the declaration, and no answer shows it. -/
theorem alike_of_flags_ofStored_lost_bit :
    let parameters : List Parameter := [⟨⟨"J"⟩, none⟩, ⟨⟨"[La;"⟩, some "args"⟩]
    let m : Method := ⟨⟨0x80000009⟩, "main", ⟨"V"⟩, parameters⟩
    let d : Declaration := {
      returnType := ⟨"V"⟩, parameterTypes := [⟨"J"⟩, ⟨"[La;"⟩], name := "main"
      flags := ⟨0x9⟩, parameters := parameters }
    d.flags = (Access.Word.ofStored 0x80000009).value ∧
      d.parameterTypes = parameters.map Parameter.type ∧ d.flags ≠ m.flags ∧
      d.CalledAlike m.reference ∧ d.source = m.source ∧ d.callRegisters = 3 := by
  intro parameters m d
  have stored : d.flags = (Access.Word.ofStored 0x80000009).value := by decide
  have types : d.parameterTypes = parameters.map Parameter.type := by decide
  obtain ⟨-, -, -, -, registers, both⟩ := alike_of_flags_ofStored d 0x80000009 stored
  obtain ⟨-, called, declared, -⟩ := both types
  exact ⟨stored, types, by decide, called, declared.source, registers⟩

end Declaration

end DexMethod
