import DexMethod.Prototype
import Mathlib.Algebra.Ring.Nat

/-!
# Registers and shorties

The registers of a call go by the first character of each type, the shorty by how many characters
a type has. Wherever the two part, they do so by one register: an empty type takes one without a
letter, and a longer text that starts like a wide primitive takes one more than its letter says.
-/

namespace DexMethod

/-- The registers of a value whose type has this letter in a shorty. -/
def letterWidth (c : Char) : Nat := if c = 'J' ∨ c = 'D' then 2 else 1

theorem letterWidth_objectMark : letterWidth Descriptor.objectMark = 1 := by decide

namespace Descriptor

/-- The text starts with the letter of a wide primitive and goes on. -/
def overrunsWide (d : Descriptor) : Bool :=
  match d.chars with
  | c :: _ :: _ => c = 'J' ∨ c = 'D'
  | _ => false

theorem isEmpty_eq (d : Descriptor) : d.isEmpty = d.chars.isEmpty := by
  rw [isEmpty, chars, Bool.eq_iff_iff, String.isEmpty_iff, List.isEmpty_iff,
    String.toList_eq_nil_iff]

theorem registerWidth_of_nil {d : Descriptor} (h : d.chars = []) : d.registerWidth = 1 := by
  simp only [registerWidth, isWide, h, List.head?_nil]
  rfl

theorem registerWidth_of_cons {d : Descriptor} {c : Char} {rest : List Char}
    (h : d.chars = c :: rest) : d.registerWidth = letterWidth c := by
  simp [registerWidth, isWide, h, letterWidth, Primitive.letter]

theorem letterWidth_of_cons_cons {d : Descriptor} {c c' : Char} {rest : List Char}
    (h : d.chars = c :: c' :: rest) : letterWidth c = 1 + if d.overrunsWide then 1 else 0 := by
  by_cases wide : c = 'J' ∨ c = 'D'
  · simp only [letterWidth, overrunsWide, h, wide, if_true, decide_true]
  · simp only [letterWidth, overrunsWide, h, wide, if_false, decide_false, Bool.false_eq_true]

theorem shortyLetter?_eq_none_iff {d : Descriptor} :
    d.shortyLetter? = none ↔ d.isEmpty = true := by
  rw [isEmpty_eq, shortyLetter?]
  cases d.chars with
  | nil => simp
  | cons c rest => cases rest <;> simp

theorem isEmpty_of_shortyLetter? {d : Descriptor} {c : Char} (h : d.shortyLetter? = some c) :
    d.isEmpty = false := by
  rw [← Bool.not_eq_true, ← shortyLetter?_eq_none_iff, h]
  exact Option.some_ne_none c

theorem registerWidth_eq (d : Descriptor) :
    d.registerWidth = (d.shortyLetter?.map letterWidth).getD 0 +
      (if d.isEmpty then 1 else 0) + if d.overrunsWide then 1 else 0 := by
  -- no, one or more characters: these are the cases of the shorty, and the width looks at the first
  rw [isEmpty_eq]
  cases h : d.chars with
  | nil => simp [registerWidth_of_nil h, shortyLetter?, overrunsWide, h]
  | cons c rest =>
      rw [registerWidth_of_cons h]
      cases rest with
      | nil => simp [shortyLetter?, overrunsWide, h]
      | cons c' rest =>
          rw [letterWidth_of_cons_cons h]
          simp [shortyLetter?, h, letterWidth_objectMark]

theorem sum_letterWidth_cons (d : Descriptor) (types : List Descriptor) :
    (((d :: types).filterMap shortyLetter?).map letterWidth).sum =
      (d.shortyLetter?.map letterWidth).getD 0 +
        ((types.filterMap shortyLetter?).map letterWidth).sum := by
  cases letter : d.shortyLetter? with
  | none => simp [List.filterMap_cons_none letter]
  | some c => simp [List.filterMap_cons_some letter]

theorem foldr_registerWidth (types : List Descriptor) :
    types.foldr (fun d n => d.registerWidth + n) 0 =
      ((types.filterMap shortyLetter?).map letterWidth).sum + types.countP isEmpty +
        types.countP overrunsWide := by
  induction types with
  | nil => rfl
  | cons d types ih =>
      rw [List.foldr_cons, ih, registerWidth_eq, sum_letterWidth_cons, List.countP_cons,
        List.countP_cons]
      omega

end Descriptor

namespace Prototype

/-- The letters behind that of the return type, which is not there if the return type is empty. -/
def argumentLetters (p : Prototype) : List Char :=
  if p.returnType.isEmpty then p.shorty.toList else p.shorty.toList.tail

theorem argumentLetters_eq (p : Prototype) :
    p.argumentLetters = p.parameterTypes.filterMap Descriptor.shortyLetter? := by
  unfold argumentLetters
  rw [shorty, String.toList_ofList, types]
  cases letter : p.returnType.shortyLetter? with
  | none =>
      have empty := Descriptor.shortyLetter?_eq_none_iff.mp letter
      rw [List.filterMap_cons_none letter, if_pos empty]
  | some c =>
      have filled := Descriptor.isEmpty_of_shortyLetter? letter
      rw [List.filterMap_cons_some letter, if_neg (by simp [filled]), List.tail_cons]

theorem registers_eq (p : Prototype) (isStatic : Bool) :
    p.registers isStatic =
      (if isStatic then 0 else 1) + (p.argumentLetters.map letterWidth).sum +
        p.parameterTypes.countP Descriptor.isEmpty +
          p.parameterTypes.countP Descriptor.overrunsWide := by
  rw [registers, argumentRegisters, Descriptor.foldr_registerWidth, argumentLetters_eq]
  simp only [Nat.add_assoc]

/-- Each type has a letter, and that of a parameter tells its registers. -/
structure Lettered (p : Prototype) : Prop where
  types : ∀ d ∈ p.types, d.isEmpty = false
  parameters : ∀ d ∈ p.parameterTypes, d.overrunsWide = false

theorem Lettered.registers_eq {p : Prototype} (h : p.Lettered) (isStatic : Bool) :
    p.registers isStatic =
      (if isStatic then 0 else 1) + (p.shorty.toList.tail.map letterWidth).sum := by
  have returned : p.returnType.isEmpty = false := h.types _ List.mem_cons_self
  have letters : p.argumentLetters = p.shorty.toList.tail := by
    rw [argumentLetters, returned]
    rfl
  have filled : p.parameterTypes.countP Descriptor.isEmpty = 0 :=
    List.countP_eq_zero.mpr fun d member => by simp [h.types d (List.mem_cons_of_mem _ member)]
  have narrow : p.parameterTypes.countP Descriptor.overrunsWide = 0 :=
    List.countP_eq_zero.mpr fun d member => by simp [h.parameters d member]
  rw [Prototype.registers_eq, letters, filled, narrow, Nat.add_zero]

/-- The shorty tells the registers of a call up to empty types and texts that overrun a wide
letter, and without those the registers follow from it. -/
theorem registers_shorty :
    (∀ (p : Prototype) (isStatic : Bool),
      p.registers isStatic =
        (if isStatic then 0 else 1) + (p.argumentLetters.map letterWidth).sum +
          p.parameterTypes.countP Descriptor.isEmpty +
            p.parameterTypes.countP Descriptor.overrunsWide) ∧
    (∀ p q : Prototype, p.Lettered → q.Lettered → p.shorty = q.shorty →
      ∀ isStatic, p.registers isStatic = q.registers isStatic) := by
  refine ⟨registers_eq, ?_⟩
  intro p q hp hq same isStatic
  rw [hp.registers_eq, hq.registers_eq, same]

/-- An array of a wide type and a class share a letter and take one register each. -/
theorem registers_shorty_array :
    let p : Prototype := ⟨⟨"V"⟩, [⟨"J"⟩, ⟨"[D"⟩, ⟨"é"⟩]⟩
    let q : Prototype := ⟨⟨"V"⟩, [⟨"J"⟩, ⟨"La;"⟩, ⟨"é"⟩]⟩
    p.Lettered ∧ q.Lettered ∧ p.shorty = q.shorty ∧
      p.registers false = 5 ∧ q.registers false = 5 := by
  intro p q
  have hp : p.Lettered := ⟨by decide, by decide⟩
  have hq : q.Lettered := ⟨by decide, by decide⟩
  have shorty : p.shorty = q.shorty := by decide
  have five : p.registers false = 5 := by decide
  have same := registers_shorty.2 p q hp hq shorty false
  exact ⟨hp, hq, shorty, five, same.symm.trans five⟩

end Prototype

end DexMethod
