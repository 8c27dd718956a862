import DexMethod.Proofs.Descriptor.Kind
import DexMethod.Prototype

/-!
# Counting the registers of arguments

Each argument takes one register, a wide one takes another, and the receiver one more. Main
statement: so the count of a list is put together from the counts of its parts, does not depend on
the order, and lies between one and two for each argument, at an end of this range only if all the
arguments are of a kind.
-/

namespace DexMethod

/-- The registers in front of the arguments. -/
def receiverRegisters (isStatic : Bool) : Nat := if isStatic then 0 else 1

namespace Descriptor

theorem registerWidth_eq_category (d : Descriptor) :
    d.registerWidth = 1 + if d.category = .widePrimitive then 1 else 0 := by
  simp only [registerWidth, isWide_iff_category]
  split <;> rfl

theorem foldr_registerWidth_eq (types : List Descriptor) :
    types.foldr (fun d n => d.registerWidth + n) 0 =
      types.length + types.countP (·.category = .widePrimitive) := by
  induction types with
  | nil => rfl
  | cons d types ih =>
      rw [List.foldr_cons, ih, registerWidth_eq_category, List.length_cons, List.countP_cons]
      simp only [decide_eq_true_iff]
      omega

end Descriptor

theorem argumentRegisters_eq (types : List Descriptor) (isStatic : Bool) :
    argumentRegisters types isStatic =
      receiverRegisters isStatic + types.length + types.countP (·.category = .widePrimitive) := by
  rw [argumentRegisters, Descriptor.foldr_registerWidth_eq, receiverRegisters, Nat.add_assoc]

theorem argumentRegisters_append (a b : List Descriptor) (isStatic : Bool) :
    argumentRegisters (a ++ b) isStatic =
      argumentRegisters a isStatic + argumentRegisters b true := by
  simp only [argumentRegisters_eq, List.length_append, List.countP_append, receiverRegisters,
    if_true]
  omega

theorem argumentRegisters_perm {a b : List Descriptor} (h : a.Perm b) (isStatic : Bool) :
    argumentRegisters a isStatic = argumentRegisters b isStatic := by
  rw [argumentRegisters_eq, argumentRegisters_eq, h.length_eq, h.countP_eq]

theorem argumentRegisters_false (types : List Descriptor) :
    argumentRegisters types false = argumentRegisters types true + 1 := by
  simp only [argumentRegisters_eq, receiverRegisters, if_true, Bool.false_eq_true, if_false]
  omega

theorem le_argumentRegisters (types : List Descriptor) (isStatic : Bool) :
    types.length + receiverRegisters isStatic ≤ argumentRegisters types isStatic := by
  rw [argumentRegisters_eq]
  omega

theorem argumentRegisters_le (types : List Descriptor) (isStatic : Bool) :
    argumentRegisters types isStatic ≤ 2 * types.length + receiverRegisters isStatic := by
  have wide : types.countP (·.category = .widePrimitive) ≤ types.length := List.countP_le_length
  rw [argumentRegisters_eq]
  omega

theorem argumentRegisters_eq_upper_iff {types : List Descriptor} {isStatic : Bool} :
    argumentRegisters types isStatic = 2 * types.length + receiverRegisters isStatic ↔
      ∀ d ∈ types, d.category = .widePrimitive := by
  have all : types.countP (·.category = .widePrimitive) = types.length ↔
      ∀ d ∈ types, d.category = .widePrimitive := by
    simp only [List.countP_eq_length, decide_eq_true_iff]
  rw [← all, argumentRegisters_eq]
  omega

theorem argumentRegisters_eq_lower_iff {types : List Descriptor} {isStatic : Bool} :
    argumentRegisters types isStatic = types.length + receiverRegisters isStatic ↔
      ∀ d ∈ types, d.category ≠ .widePrimitive := by
  have none : types.countP (·.category = .widePrimitive) = 0 ↔
      ∀ d ∈ types, d.category ≠ .widePrimitive := by
    simp only [List.countP_eq_zero, decide_eq_true_iff, ne_eq]
  rw [← none, argumentRegisters_eq]
  omega

/-- The registers of a call add up over its arguments, in any order, with the receiver counted
once; there are one or two for each argument, and the wide ones make the difference. -/
theorem argumentRegisters_additive_bounded :
    (∀ (a b : List Descriptor) (isStatic : Bool),
      argumentRegisters (a ++ b) isStatic =
        argumentRegisters a isStatic + argumentRegisters b true) ∧
    (∀ a b : List Descriptor, a.Perm b →
      ∀ isStatic, argumentRegisters a isStatic = argumentRegisters b isStatic) ∧
    (∀ types, argumentRegisters types false = argumentRegisters types true + 1) ∧
    (∀ (types : List Descriptor) (isStatic : Bool),
      let receiver := if isStatic then 0 else 1
      let count := argumentRegisters types isStatic
      count = receiver + types.length + types.countP (·.category = .widePrimitive) ∧
      types.length + receiver ≤ count ∧ count ≤ 2 * types.length + receiver ∧
      (count = 2 * types.length + receiver ↔ ∀ d ∈ types, d.category = .widePrimitive) ∧
      (count = types.length + receiver ↔ ∀ d ∈ types, d.category ≠ .widePrimitive)) := by
  refine ⟨argumentRegisters_append, fun _ _ => argumentRegisters_perm, argumentRegisters_false, ?_⟩
  intro types isStatic receiver count
  exact ⟨argumentRegisters_eq types isStatic, le_argumentRegisters types isStatic,
    argumentRegisters_le types isStatic, argumentRegisters_eq_upper_iff,
    argumentRegisters_eq_lower_iff⟩

/-- Empty types take a register each, and a text that only starts like a wide type takes two. -/
theorem argumentRegisters_additive_bounded_odd_texts :
    let a : List Descriptor := [⟨""⟩, ⟨"[J"⟩]
    let b : List Descriptor := [⟨"Jé"⟩, ⟨"D"⟩]
    (a ++ b).Perm (b ++ a) ∧ argumentRegisters (b ++ a) false = 7 ∧
      argumentRegisters a true = 2 ∧ argumentRegisters b true = 4 := by
  intro a b
  obtain ⟨append, perm, -, bounds⟩ := argumentRegisters_additive_bounded
  have order : (a ++ b).Perm (b ++ a) := List.perm_append_comm
  have lower : argumentRegisters a true = 2 := (bounds a true).2.2.2.2.mpr (by decide)
  have upper : argumentRegisters b true = 4 := (bounds b true).2.2.2.1.mpr (by decide)
  have start : argumentRegisters a false = 3 := (bounds a false).2.2.2.2.mpr (by decide)
  refine ⟨order, ?_, lower, upper⟩
  rw [← perm _ _ order, append, start, upper]

end DexMethod
