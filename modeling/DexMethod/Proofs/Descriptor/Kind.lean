import DexMethod.Proofs.Descriptor.Delimited
import DexMethod.Proofs.Descriptor.Expansion
import Mathlib.Data.List.TFAE

/-!
# What kind of type a descriptor names

The kind of a type is asked in several ways: by the first character, by how many characters or
bytes there are, or by the table of letters. Main statement: on any text the questions about the
first character agree, and on a well-formed descriptor all of them do. Such a descriptor names a
primitive or a reference, and it names a reference just if a second character follows the first.
-/

namespace DexMethod

namespace Primitive

theorem category_eq_wide_iff {p : Primitive} : p.category = .widePrimitive ↔ p.isWide = true := by
  cases p <;> decide

theorem category_ne_array (p : Primitive) : p.category ≠ .array := by
  cases p <;> decide

theorem isReference_category (p : Primitive) : p.category.isReference = false := by
  cases p <;> decide

theorem letter_ne_arrayMark (p : Primitive) : p.letter ≠ Descriptor.arrayMark := by
  cases p <;> decide

theorem toNat_letter_lt (p : Primitive) : p.letter.toNat < 0x80 := by
  cases p <;> decide

theorem isWide_iff_letter {p : Primitive} :
    p.isWide = true ↔ p.letter = long.letter ∨ p.letter = double.letter := by
  cases p <;> decide

end Primitive

namespace Descriptor

variable {d : Descriptor}

theorem category_of_nil (h : d.chars.head? = none) : d.category = .unknown := by
  rw [category, h]

theorem category_of_arrayMark (h : d.chars.head? = some arrayMark) : d.category = .array := by
  rw [category, h]
  exact if_pos rfl

theorem category_of_objectMark (h : d.chars.head? = some objectMark) : d.category = .object := by
  rw [category, h]
  rfl

theorem category_of_letter {p : Primitive} (h : d.chars.head? = some p.letter) :
    d.category = p.category := by
  rw [category, h]
  cases p <;> rfl

theorem category_of_other {c : Char} (h : d.chars.head? = some c) (array : c ≠ arrayMark)
    (object : c ≠ objectMark) (letter : Primitive.ofLetter? c = none) : d.category = .unknown := by
  simp only [category, h, if_neg array, if_neg object, letter]

/-- The first characters that categories tell apart. -/
theorem head_cases (d : Descriptor) :
    d.chars.head? = none ∨ d.chars.head? = some arrayMark ∨ d.chars.head? = some objectMark ∨
      (∃ p : Primitive, d.chars.head? = some p.letter) ∨
      ∃ c, d.chars.head? = some c ∧ c ≠ arrayMark ∧ c ≠ objectMark ∧
        Primitive.ofLetter? c = none := by
  cases first : d.chars.head? with
  | none => exact .inl rfl
  | some c =>
      right
      by_cases array : c = arrayMark
      · exact .inl (congrArg some array)
      by_cases object : c = objectMark
      · exact .inr (.inl (congrArg some object))
      cases letter : Primitive.ofLetter? c with
      | none => exact .inr (.inr (.inr ⟨c, rfl, array, object, letter⟩))
      | some p =>
          rw [Primitive.ofLetter?_eq_some_iff] at letter
          exact .inr (.inr (.inl ⟨p, congrArg some letter⟩))

theorem isArray_iff_category : d.isArray = true ↔ d.category = .array := by
  rw [isArray, beq_iff_eq]
  rcases d.head_cases with none | array | object | ⟨p, letter⟩ | ⟨c, other, array, object, unlisted⟩
  · simp [none, category_of_nil none]
  · simp [array, category_of_arrayMark array]
  · simp [object, category_of_objectMark object, objectMark, arrayMark]
  · simp [letter, category_of_letter letter, p.category_ne_array, p.letter_ne_arrayMark]
  · simp [other, category_of_other other array object unlisted, array]

theorem isWide_iff : d.isWide = true ↔
    d.chars.head? = some Primitive.long.letter ∨ d.chars.head? = some Primitive.double.letter := by
  unfold isWide
  cases d.chars.head? <;> simp

theorem isWide_iff_category : d.isWide = true ↔ d.category = .widePrimitive := by
  rw [isWide_iff]
  rcases d.head_cases with none | array | object | ⟨p, letter⟩ | ⟨c, other, array, object, unlisted⟩
  · simp [none, category_of_nil none]
  · simp [array, category_of_arrayMark array, arrayMark, Primitive.letter]
  · simp [object, category_of_objectMark object, objectMark, Primitive.letter]
  · simp [letter, category_of_letter letter, Primitive.category_eq_wide_iff,
      Primitive.isWide_iff_letter]
  · have none (p : Primitive) : c ≠ p.letter := by
      rintro rfl
      simp at unlisted
    simp [other, category_of_other other array object unlisted, none]

theorem registerWidth_eq_two_iff : d.registerWidth = 2 ↔ d.isWide = true := by
  unfold registerWidth
  cases d.isWide <;> decide

theorem text_eq_singleton_iff {c : Char} : d.text = String.singleton c ↔ d.chars = [c] := by
  rw [chars, String.singleton_eq_ofList, ← String.toList_inj, String.toList_ofList]

theorem primitive?_eq_some_iff {p : Primitive} : d.primitive? = some p ↔ d.chars = [p.letter] := by
  unfold primitive?
  split
  · rename_i c single
    simp [Primitive.ofLetter?_eq_some_iff, single]
  · rename_i other
    simp only [reduceCtorEq, false_iff]
    exact other p.letter

theorem utf8ByteSize_text_of_cons {c : Char} {rest : List Char} (h : d.chars = c :: rest) :
    d.text.utf8ByteSize = c.utf8Size + (ofChars rest).text.utf8ByteSize := by
  rw [← ofChars_chars d, h, ofChars, String.ofList_cons, String.utf8ByteSize_append,
    String.utf8ByteSize_singleton]
  rfl

/-- Each character takes at least one byte. -/
theorem isPrimitive_of_cons_cons {c c' : Char} {rest : List Char} (h : d.chars = c :: c' :: rest) :
    d.isPrimitive = false := by
  have first := c.utf8Size_pos
  have second := c'.utf8Size_pos
  have size := utf8ByteSize_text_of_cons h
  rw [utf8ByteSize_text_of_cons (chars_ofChars _)] at size
  rw [isPrimitive, beq_eq_false_iff_ne]
  omega

theorem isPrimitive_of_singleton {c : Char} (h : d.chars = [c]) :
    d.isPrimitive = true ↔ c.toNat < 0x80 := by
  have size : d.text.utf8ByteSize = c.utf8Size := utf8ByteSize_text_of_cons h
  rw [isPrimitive, beq_iff_eq, size, Char.utf8Size_eq_one_iff, UInt32.le_iff_toNat_le]
  exact Nat.lt_succ_iff.symm

theorem isPrimitive_iff : d.isPrimitive = true ↔ ∃ c : Char, d.chars = [c] ∧ c.toNat < 0x80 := by
  cases text : d.chars with
  | nil =>
      have empty : d.text = "" := String.toList_eq_nil_iff.mp text
      simp [isPrimitive, empty]
  | cons c rest =>
      cases rest with
      | nil => simp [isPrimitive_of_singleton text]
      | cons c' rest => simp [isPrimitive_of_cons_cons text]

/-- What is answered for a primitive. -/
structure NamesPrimitive (d : Descriptor) (p : Primitive) : Prop where
  isPrimitive : d.isPrimitive = true
  primitive? : d.primitive? = some p
  shortyLetter? : d.shortyLetter? = some p.letter
  placeholder : d.placeholder = primitivePlaceholder
  category : d.category = p.category

/-- What is answered for an array or an object. -/
structure NamesReference (d : Descriptor) : Prop where
  isPrimitive : d.isPrimitive = false
  primitive? : d.primitive? = none
  shortyLetter? : d.shortyLetter? = some objectMark
  kind : d.category = .array ∧ d.placeholder = arrayPlaceholder ∨
    d.category = .object ∧ d.placeholder = objectPlaceholder

theorem namesPrimitive_of_chars {p : Primitive} (h : d.chars = [p.letter]) :
    d.NamesPrimitive p where
  isPrimitive := (isPrimitive_of_singleton h).mpr p.toNat_letter_lt
  primitive? := primitive?_eq_some_iff.mpr h
  shortyLetter? := by rw [shortyLetter?, h]
  placeholder := if_pos ((isPrimitive_of_singleton h).mpr p.toNat_letter_lt)
  category := category_of_letter (by rw [h, List.head?_cons])

theorem namesReference_of_chars {m c : Char} {rest : List Char} (h : d.chars = m :: c :: rest)
    (mark : m = arrayMark ∨ m = objectMark) : d.NamesReference where
  isPrimitive := isPrimitive_of_cons_cons h
  primitive? := by rw [primitive?, h]
  shortyLetter? := by rw [shortyLetter?, h]
  kind := by
    have first : d.chars.head? = some m := by rw [h, List.head?_cons]
    have longer : ¬ d.isPrimitive = true := by simp [isPrimitive_of_cons_cons h]
    rcases mark with rfl | rfl
    · have array := category_of_arrayMark first
      refine .inl ⟨array, ?_⟩
      rw [placeholder, if_neg longer, if_pos (isArray_iff_category.mpr array)]
    · have object := category_of_objectMark first
      have plain : ¬ d.isArray = true := by simp [isArray_iff_category, object]
      refine .inr ⟨object, ?_⟩
      rw [placeholder, if_neg longer, if_neg plain]

theorem WellFormed.chars_cases (h : d.WellFormed) :
    (∃ p : Primitive, d.chars = [p.letter]) ∨
      ∃ m c rest, d.chars = m :: c :: rest ∧ (m = arrayMark ∨ m = objectMark) := by
  obtain ⟨⟨rank, element⟩, rfl⟩ := wellFormed_iff.mp h
  rw [Shape.descriptor, chars_ofChars]
  cases rank with
  | zero =>
      cases element with
      | primitive p => exact .inl ⟨p, rfl⟩
      | object name =>
          obtain ⟨c, rest, more⟩ := List.exists_cons_of_ne_nil
            (List.append_ne_nil_of_right_ne_nil name.toList (List.cons_ne_nil objectEnd []))
          exact .inr ⟨objectMark, c, rest, congrArg (objectMark :: ·) more, .inr rfl⟩
  | succ n =>
      obtain ⟨c, rest, more⟩ := List.exists_cons_of_ne_nil
        (List.append_ne_nil_of_right_ne_nil (List.replicate n arrayMark) element.chars_ne_nil)
      exact .inr ⟨arrayMark, c, rest, congrArg (arrayMark :: ·) more, .inl rfl⟩

theorem WellFormed.names (h : d.WellFormed) : (∃ p, d.NamesPrimitive p) ∨ d.NamesReference := by
  rcases h.chars_cases with ⟨p, letter⟩ | ⟨m, c, rest, longer, mark⟩
  · exact .inl ⟨p, namesPrimitive_of_chars letter⟩
  · exact .inr (namesReference_of_chars longer mark)

/-- The ways to say that a descriptor names a primitive. -/
def primitiveTests (d : Descriptor) : List Prop :=
  [d.isPrimitive = true, d.primitive?.isSome = true, d.shortyLetter? ≠ some 'L',
    d.placeholder = "val", d.category.isReference = false]

theorem NamesPrimitive.tests {p : Primitive} (h : d.NamesPrimitive p) :
    ∀ test ∈ d.primitiveTests, test ↔ True := by
  simp [primitiveTests, h.isPrimitive, h.primitive?, h.shortyLetter?, h.placeholder, h.category,
    p.letter_ne_objectMark, p.isReference_category, primitivePlaceholder]

theorem NamesReference.tests (h : d.NamesReference) : ∀ test ∈ d.primitiveTests, test ↔ False := by
  have kind : d.placeholder ≠ "val" ∧ d.category.isReference = true := by
    rcases h.kind with ⟨array, placeholder⟩ | ⟨object, placeholder⟩
    · rw [array, placeholder]
      decide
    · rw [object, placeholder]
      decide
  simp [primitiveTests, h.isPrimitive, h.primitive?, h.shortyLetter?, kind]

theorem WellFormed.tfae (h : d.WellFormed) : d.primitiveTests.TFAE := by
  rcases h.names with ⟨p, primitive⟩ | reference
  · exact List.tfae_of_forall True _ primitive.tests
  · exact List.tfae_of_forall False _ reference.tests

/-- On any text wide and array types are what the category says, and the tests for a primitive ask
for one character each in its own way. On a well-formed descriptor these tests are one, those that
pass it are answered by their letter, and the others are arrays or objects. -/
theorem kind_questions_agree :
    (∀ d : Descriptor,
      (d.isWide = true ↔ d.category = .widePrimitive) ∧
      (d.category = .widePrimitive ↔ d.registerWidth = 2) ∧
      (d.isArray = true ↔ d.category = .array) ∧
      (∀ p, d.primitive? = some p ↔ d.text = String.singleton p.letter) ∧
      (d.isPrimitive = true ↔ ∃ c : Char, d.text = String.singleton c ∧ c.toNat < 0x80)) ∧
    (∀ d : Descriptor, d.WellFormed →
      List.TFAE [d.isPrimitive = true, d.primitive?.isSome = true, d.shortyLetter? ≠ some 'L',
        d.placeholder = "val", d.category.isReference = false] ∧
      (∀ p, d.primitive? = some p →
        d.shortyLetter? = some p.letter ∧ (d.registerWidth = 2 ↔ p.isWide = true)) ∧
      (d.isPrimitive = false →
        d.category = .array ∧ d.placeholder = "arr" ∨
          d.category = .object ∧ d.placeholder = "obj")) := by
  have width (d : Descriptor) : d.category = .widePrimitive ↔ d.registerWidth = 2 :=
    isWide_iff_category.symm.trans registerWidth_eq_two_iff.symm
  constructor
  · intro d
    simp only [text_eq_singleton_iff]
    exact ⟨isWide_iff_category, width d, isArray_iff_category, fun _ => primitive?_eq_some_iff,
      isPrimitive_iff⟩
  · intro d formed
    refine ⟨formed.tfae, ?_, ?_⟩
    · intro p found
      have named := namesPrimitive_of_chars (primitive?_eq_some_iff.mp found)
      refine ⟨named.shortyLetter?, ?_⟩
      rw [← width, named.category, Primitive.category_eq_wide_iff]
    · intro other
      rcases formed.names with ⟨p, primitive⟩ | reference
      · rw [primitive.isPrimitive] at other
        cases other
      · exact reference.kind

/-- A class name may look like anything; a text that is no descriptor may start like a wide type or
pass for a primitive. -/
theorem kind_questions_agree_odd_texts :
    let wide : Descriptor := ⟨"J"⟩
    let array : Descriptor := ⟨"[J"⟩
    let object : Descriptor := ⟨"L[é;"⟩
    wide.WellFormed ∧ array.WellFormed ∧ object.WellFormed ∧
      wide.registerWidth = 2 ∧ wide.placeholder = "val" ∧
      array.registerWidth ≠ 2 ∧ array.placeholder = "arr" ∧ object.placeholder = "obj" ∧
      (⟨"Jé"⟩ : Descriptor).registerWidth = 2 ∧ (⟨"Q"⟩ : Descriptor).isPrimitive = true := by
  intro wide array object
  obtain ⟨texts, formed⟩ := kind_questions_agree
  have hw : wide.WellFormed := by decide
  have ha : array.WellFormed := by decide
  have ho : object.WellFormed := by decide
  obtain ⟨tests, named, -⟩ := formed wide hw
  obtain ⟨-, -, arrays⟩ := formed array ha
  obtain ⟨-, -, objects⟩ := formed object ho
  have long : wide.primitive? = some .long := by decide
  refine ⟨hw, ha, ho, (named .long long).2.mpr rfl, (tests.out 0 3).mp (by decide), ?_, ?_, ?_,
    (texts ⟨"Jé"⟩).2.1.mp (by decide), (texts ⟨"Q"⟩).2.2.2.2.mpr ⟨'Q', rfl, by decide⟩⟩
  · intro two
    exact absurd ((texts array).2.1.mpr two) (by decide)
  · rcases arrays (by decide) with ⟨-, placeholder⟩ | ⟨category, -⟩
    · exact placeholder
    · exact absurd category (by decide)
  · rcases objects (by decide) with ⟨category, -⟩ | ⟨-, placeholder⟩
    · exact absurd category (by decide)
    · exact placeholder

end Descriptor

end DexMethod
