import DexMethod.Proofs.Prototype.Registers
import Mathlib.Data.List.Forall2

/-!
# What a shorty tells

A shorty has a letter for each type that is not empty, in order. So two of them are the same if
the types that are not empty are alike one by one, where all references are alike. The letters
by themselves are types again, and these have the shorty that was taken apart.
-/

namespace DexMethod

namespace Descriptor

/-- The texts that a shorty shows as references. -/
def ReferenceLike (d : Descriptor) : Prop := d.text = "L" ∨ 2 ≤ d.text.length

/-- The types are the same, or a shorty shows both as references. -/
def Alike (d e : Descriptor) : Prop := d = e ∨ d.ReferenceLike ∧ e.ReferenceLike

instance : DecidablePred ReferenceLike := fun _ => inferInstanceAs (Decidable (_ ∨ _))

instance : DecidableRel Alike := fun _ _ => inferInstanceAs (Decidable (_ ∨ _ ∧ _))

theorem referenceLike_iff_chars {d : Descriptor} :
    d.ReferenceLike ↔ d.chars = [objectMark] ∨ 2 ≤ d.chars.length := by
  rw [ReferenceLike, chars, String.length_toList, ← String.toList_inj]
  rfl

theorem referenceLike_iff {d : Descriptor} :
    d.ReferenceLike ↔ d.shortyLetter? = some objectMark := by
  rw [referenceLike_iff_chars, shortyLetter?]
  cases d.chars with
  | nil => simp
  | cons c rest => cases rest <;> simp

theorem chars_of_not_referenceLike {d : Descriptor} (h : ¬ d.ReferenceLike) :
    d.chars = d.shortyLetter?.toList := by
  rw [referenceLike_iff_chars, not_or] at h
  rw [shortyLetter?]
  cases text : d.chars with
  | nil => rfl
  | cons c rest =>
      cases rest with
      | nil => rfl
      | cons c' rest => simp [text] at h

theorem shortyLetter?_eq_iff {d e : Descriptor} :
    d.shortyLetter? = e.shortyLetter? ↔ d.Alike e := by
  constructor
  · intro same
    by_cases reference : d.ReferenceLike
    · have other : e.ReferenceLike := by
        rw [referenceLike_iff, ← same]
        exact referenceLike_iff.mp reference
      exact .inr ⟨reference, other⟩
    · have other : ¬ e.ReferenceLike := by
        rw [referenceLike_iff, ← same]
        exact fun letter => reference (referenceLike_iff.mpr letter)
      apply Or.inl
      rw [← chars_inj, chars_of_not_referenceLike reference, same,
        ← chars_of_not_referenceLike other]
  · rintro (rfl | ⟨hd, he⟩)
    · rfl
    · rw [referenceLike_iff.mp hd, referenceLike_iff.mp he]

theorem map_some_filterMap (types : List Descriptor) :
    (types.filterMap shortyLetter?).map some =
      (types.filter fun d => !d.isEmpty).map shortyLetter? := by
  induction types with
  | nil => rfl
  | cons d types ih =>
      cases letter : d.shortyLetter? with
      | none =>
          have empty := shortyLetter?_eq_none_iff.mp letter
          rw [List.filterMap_cons_none letter, ih, List.filter_cons_of_neg (by simp [empty])]
      | some c =>
          have filled := isEmpty_of_shortyLetter? letter
          rw [List.filterMap_cons_some letter, List.map_cons, ih,
            List.filter_cons_of_pos (by simp [filled]), List.map_cons, letter]

end Descriptor

namespace Prototype

/-- The types that are not empty, the return type first. -/
def filled (p : Prototype) : List Descriptor := p.types.filter fun d => !d.isEmpty

theorem map_some_shorty (p : Prototype) :
    p.shorty.toList.map some = p.filled.map Descriptor.shortyLetter? := by
  rw [shorty, String.toList_ofList, Descriptor.map_some_filterMap, filled]

theorem length_shorty (p : Prototype) : p.shorty.length = p.filled.length := by
  have lengths := congrArg List.length p.map_some_shorty
  rwa [List.length_map, List.length_map, String.length_toList] at lengths

theorem filled_eq_types {p : Prototype} (h : ∀ d ∈ p.types, d.isEmpty = false) :
    p.filled = p.types :=
  List.filter_eq_self.mpr fun d member => by rw [h d member]; rfl

theorem length_shorty_eq_iff {p : Prototype} :
    p.shorty.length = 1 + p.parameterTypes.length ↔ ∀ d ∈ p.types, d.isEmpty = false := by
  have arity : 1 + p.parameterTypes.length = p.types.length := by
    rw [types, List.length_cons, Nat.add_comm]
  rw [length_shorty, arity, filled, List.length_filter_eq_length_iff]
  simp only [Bool.not_eq_true']

/-- The letters of the shorty stand for the types one by one. -/
structure Aligned (p : Prototype) : Prop where
  length : p.shorty.length = 1 + p.parameterTypes.length
  first : p.shorty.toList[0]? = p.returnType.shortyLetter?
  later : ∀ i, p.shorty.toList[i + 1]? = p.parameterTypes[i]?.bind Descriptor.shortyLetter?

theorem getElem?_shorty {p : Prototype} (h : ∀ d ∈ p.types, d.isEmpty = false) (i : Nat) :
    p.shorty.toList[i]? = p.types[i]?.bind Descriptor.shortyLetter? := by
  have letters := congrArg (fun l => l[i]?) p.map_some_shorty
  rw [filled_eq_types h] at letters
  simp only [List.getElem?_map] at letters
  cases type : p.types[i]? with
  | none => simpa [type] using letters
  | some d =>
      rw [type, Option.map_some] at letters
      obtain ⟨c, letter, same⟩ := Option.map_eq_some_iff.mp letters
      rw [letter, same, Option.bind_some]

theorem aligned_of_filled {p : Prototype} (h : ∀ d ∈ p.types, d.isEmpty = false) : p.Aligned where
  length := length_shorty_eq_iff.mpr h
  first := getElem?_shorty h 0
  later i := getElem?_shorty h (i + 1)

theorem shorty_eq_iff {p q : Prototype} :
    p.shorty = q.shorty ↔ List.Forall₂ Descriptor.Alike p.filled q.filled := by
  rw [← String.toList_inj, ← List.map_inj_right (f := some) fun _ _ => Option.some.inj,
    map_some_shorty, map_some_shorty, ← List.forall₂_eq_eq_eq, List.forall₂_map_left_iff,
    List.forall₂_map_right_iff]
  simp only [Descriptor.shortyLetter?_eq_iff]

/-- Each letter of a shorty as a type of its own. -/
def ofShorty (s : String) : Prototype :=
  match s.toList.map fun c => Descriptor.ofChars [c] with
  | [] => ⟨⟨""⟩, []⟩
  | returnType :: parameterTypes => ⟨returnType, parameterTypes⟩

theorem filterMap_ofChars (letters : List Char) :
    (letters.map fun c => Descriptor.ofChars [c]).filterMap Descriptor.shortyLetter? = letters := by
  have single (c : Char) : (Descriptor.ofChars [c]).shortyLetter? = some c := by
    rw [Descriptor.shortyLetter?, Descriptor.chars_ofChars]
  simp only [List.filterMap_map, Function.comp_def, single, List.filterMap_some]

theorem shorty_ofShorty (s : String) : (ofShorty s).shorty = s := by
  have letters := filterMap_ofChars s.toList
  unfold ofShorty
  split
  · rename_i none_left
    rw [none_left] at letters
    rw [String.toList_eq_nil_iff.mp letters.symm]
    rfl
  · rename_i returnType parameterTypes split_up
    rw [split_up] at letters
    rw [shorty, types, letters, String.ofList_toList]

theorem forall₂_types_iff {R : Descriptor → Descriptor → Prop} {p q : Prototype} :
    List.Forall₂ R p.types q.types ↔
      p.parameterTypes.length = q.parameterTypes.length ∧
        ∀ (i : Nat) (d e : Descriptor),
          p.types[i]? = some d → q.types[i]? = some e → R d e := by
  rw [List.forall₂_iff_get]
  simp only [types, List.length_cons, Nat.add_right_cancel_iff, List.getElem?_eq_some_iff]
  refine and_congr_right fun _ => ⟨?_, ?_⟩
  · rintro related i _ _ ⟨hp, rfl⟩ ⟨hq, rfl⟩
    exact related i hp hq
  · intro related i hp hq
    exact related i _ _ ⟨hp, rfl⟩ ⟨hq, rfl⟩

/-- Without empty types, a shorty tells how many types there are and each of them up to the choice
of a reference; with them as well, it is the shorty of its own letters. -/
theorem shorty_eq_iff_alike :
    (∀ p q : Prototype, (∀ d ∈ p.types, d.isEmpty = false) → (∀ d ∈ q.types, d.isEmpty = false) →
      (p.shorty = q.shorty ↔
        p.parameterTypes.length = q.parameterTypes.length ∧
          ∀ (i : Nat) (d e : Descriptor),
            p.types[i]? = some d → q.types[i]? = some e → d.Alike e)) ∧
    (∀ p : Prototype, (ofShorty p.shorty).shorty = p.shorty) := by
  refine ⟨?_, fun p => shorty_ofShorty p.shorty⟩
  intro p q hp hq
  rw [shorty_eq_iff, filled_eq_types hp, filled_eq_types hq, forall₂_types_iff]

/-- An array goes for a class and a class for a bare `L`, but no other letter goes for another. -/
theorem shorty_eq_iff_alike_references :
    let p : Prototype := ⟨⟨"L"⟩, [⟨"[I"⟩, ⟨"é"⟩]⟩
    let q : Prototype := ⟨⟨"La;"⟩, [⟨"L"⟩, ⟨"é"⟩]⟩
    let r : Prototype := ⟨⟨"L"⟩, [⟨"[I"⟩, ⟨"I"⟩]⟩
    let s : Prototype := ⟨⟨""⟩, [⟨"V"⟩, ⟨""⟩, ⟨"[I"⟩]⟩
    p.shorty = q.shorty ∧ p.shorty ≠ r.shorty ∧ (ofShorty s.shorty).shorty = "VL" := by
  intro p q r s
  have hp : ∀ d ∈ p.types, d.isEmpty = false := by decide
  have hq : ∀ d ∈ q.types, d.isEmpty = false := by decide
  have hr : ∀ d ∈ r.types, d.isEmpty = false := by decide
  obtain ⟨told, again⟩ := shorty_eq_iff_alike
  have alike : List.Forall₂ Descriptor.Alike p.types q.types :=
    .cons (by decide) (.cons (by decide) (.cons (by decide) .nil))
  have same : p.shorty = q.shorty := (told p q hp hq).mpr (forall₂_types_iff.mp alike)
  refine ⟨same, ?_, ?_⟩
  · intro other
    have letters := ((told p r hp hr).mp other).2 2 ⟨"é"⟩ ⟨"I"⟩ rfl rfl
    exact absurd letters (by decide)
  · exact (again s).trans (by decide)

end Prototype

end DexMethod
