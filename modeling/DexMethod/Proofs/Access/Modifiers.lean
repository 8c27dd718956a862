import DexMethod.Access.Keywords

/-!
# What a word says on a target

The bits with a meaning on a target are a mask. Two words have the same modifiers there exactly
if they agree under the mask, and a modifier can be told from its keyword.
-/

namespace DexMethod.Access

namespace Word

theorem getLsbD_foldl_union (l : List Flag) (w : Word) (i : Nat) :
    (l.foldl (fun v f => v ∪ ofFlag f) w).bits.getLsbD i = true ↔
      w.bits.getLsbD i = true ∨ ∃ f ∈ l, i = f.position := by
  induction l generalizing w with
  | nil => simp
  | cons f l ih =>
      rw [List.foldl_cons, ih, bits_union, BitVec.getLsbD_or, ofFlag, Flag.getLsbD_mask]
      simp [or_assoc]

theorem getLsbD_ofFlags {l : List Flag} {i : Nat} :
    (ofFlags l).bits.getLsbD i = true ↔ ∃ f ∈ l, i = f.position := by
  rw [ofFlags, getLsbD_foldl_union]
  simp

theorem getLsbD_empty (i : Nat) : (∅ : Word).bits.getLsbD i = false := BitVec.getLsbD_zero

theorem eq_empty_iff {w : Word} : w = ∅ ↔ ∀ i, w.bits.getLsbD i = false := by
  constructor
  · rintro rfl
    exact getLsbD_empty
  · intro h
    rw [← bits_inj]
    apply BitVec.eq_of_getLsbD_eq
    intro i _
    rw [h i, getLsbD_empty]

/-- Two words agree on the bits of a list of flags exactly if they have the same of them. -/
theorem and_ofFlags_eq_iff {v w : Word} {l : List Flag} :
    v.bits &&& (ofFlags l).bits = w.bits &&& (ofFlags l).bits ↔ ∀ f ∈ l, (f ∈ v ↔ f ∈ w) := by
  constructor
  · intro h f listed
    have bit := congrArg (fun b : BitVec 32 => b.getLsbD f.position) h
    have masked : (ofFlags l).bits.getLsbD f.position = true := getLsbD_ofFlags.mpr ⟨f, listed, rfl⟩
    simp only [BitVec.getLsbD_and, masked, Bool.and_true] at bit
    rw [mem_def, mem_def, bit]
  · intro h
    apply BitVec.eq_of_getLsbD_eq
    intro i hi
    rw [BitVec.getLsbD_and, BitVec.getLsbD_and]
    cases masked : (ofFlags l).bits.getLsbD i with
    | false => rw [Bool.and_false, Bool.and_false]
    | true =>
        -- every bit of the mask is that of some flag of the list
        obtain ⟨f, listed, rfl⟩ := getLsbD_ofFlags.mp masked
        rw [Bool.and_true, Bool.and_true]
        exact Bool.eq_iff_iff.mpr (h f listed)

theorem intersects_iff {v w : Word} : v.intersects w = true ↔ v.bits &&& w.bits ≠ 0 := by
  simp [intersects, isEmpty, ← bits_inj]

/-- A word meets a list of flags exactly if one of them is in it. -/
theorem and_ofFlags_ne_zero_iff {w : Word} {l : List Flag} :
    w.bits &&& (ofFlags l).bits ≠ 0 ↔ ∃ f ∈ l, f ∈ w := by
  rw [← bits_inter, ← bits_empty, ne_eq, bits_inj, eq_empty_iff, Classical.not_forall]
  simp only [Bool.not_eq_false, bits_inter, BitVec.getLsbD_and, Bool.and_eq_true, getLsbD_ofFlags]
  constructor
  · rintro ⟨_, inside, f, listed, rfl⟩
    exact ⟨f, listed, inside⟩
  · rintro ⟨f, listed, inside⟩
    exact ⟨f.position, inside, f, listed, rfl⟩

theorem intersects_ofFlags {w : Word} {l : List Flag} :
    w.intersects (ofFlags l) = true ↔ ∃ f ∈ l, f ∈ w :=
  intersects_iff.trans and_ofFlags_ne_zero_iff

end Word

/-- The bits that have a meaning on the target. -/
def Target.mask (t : Target) : Word := .ofFlags t.flags

theorem Target.mask_method : (Target.mask .method).bits = 0x31DFF#32 := by decide

theorem Target.getLsbD_mask {t : Target} {i : Nat} :
    t.mask.bits.getLsbD i = true ↔ ∃ f : Flag, f.validFor t = true ∧ i = f.position := by
  rw [mask, Word.getLsbD_ofFlags]
  simp [Target.flags, Flag.mem_all]

namespace Word

theorem and_mask_eq_iff {v w : Word} {t : Target} :
    v.bits &&& t.mask.bits = w.bits &&& t.mask.bits ↔
      ∀ f : Flag, f.validFor t → (f ∈ v ↔ f ∈ w) := by
  rw [Target.mask, and_ofFlags_eq_iff]
  simp only [Target.flags, List.mem_filter, Flag.mem_all, true_and]

theorem modifiers_eq_iff {v w : Word} {t : Target} :
    v.modifiers t = w.modifiers t ↔ v.bits &&& t.mask.bits = w.bits &&& t.mask.bits := by
  rw [and_mask_eq_iff]
  constructor
  · intro h f valid
    have same : f ∈ v.modifiers t ↔ f ∈ w.modifiers t := by rw [h]
    simpa only [mem_modifiers, valid, true_and] using same
  · exact modifiers_congr

end Word

namespace Flag

/-- The flag that a keyword stands for. -/
def ofKeyword? (keyword : String) : Option Flag := all.find? fun f => f.keyword == keyword

@[simp] theorem ofKeyword?_keyword (f : Flag) : ofKeyword? f.keyword = some f := by
  cases f <;> decide

theorem keyword_injective : Function.Injective keyword := by
  intro f g h
  have read := congrArg ofKeyword? h
  simpa only [ofKeyword?_keyword, Option.some.injEq] using read

end Flag

end DexMethod.Access
