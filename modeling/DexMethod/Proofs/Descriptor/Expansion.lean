import DexMethod.Descriptor.Shape

/-!
# How types are spelled in source

What stands behind the array marks of a descriptor decides how the type is spelled: the letter of
a primitive and a class name between `L` and `;` have a spelling of their own, with a pair of
brackets for each mark, and any other text keeps its own. Main statement: these are all the cases,
no descriptor of the first two kinds is spelled like itself, and further marks add as many pairs.
-/

namespace DexMethod

/-- A dot for each slash. -/
def dotted (name : String) : String := name.map fun c => if c = '/' then '.' else c

theorem toList_dotted (name : String) :
    (dotted name).toList = name.toList.map fun c => if c = '/' then '.' else c := by
  rw [dotted, String.toList_map]

/-- As many pairs of brackets. -/
def brackets (n : Nat) : String := String.join (List.replicate n "[]")

theorem toList_brackets (n : Nat) :
    (brackets n).toList = (List.replicate n ['[', ']']).flatten := by
  rw [brackets, String.toList_join, List.flatMap_replicate]
  rfl

theorem brackets_add (m n : Nat) : brackets (m + n) = brackets m ++ brackets n := by
  apply String.toList_inj.mp
  rw [String.toList_append, toList_brackets, toList_brackets, toList_brackets,
    ← List.replicate_append_replicate, List.flatten_append]

theorem getLast?_append_brackets (text : String) (n : Nat) :
    (text ++ brackets (n + 1)).toList.getLast? = some ']' := by
  have last : (brackets 1).toList.getLast? = some ']' := by decide
  rw [brackets_add, ← String.append_assoc, String.toList_append, List.getLast?_append, last,
    Option.some_or]

namespace Element

theorem sourceName_object (name : String) : (object name).sourceName = dotted name := rfl

theorem chars_ne_nil (e : Element) : e.chars ≠ [] := by
  cases e <;> exact List.cons_ne_nil _ _

theorem getLast?_chars_ne (e : Element) : e.chars.getLast? ≠ some ']' := by
  cases e with
  | primitive p => cases p <;> decide
  | object name =>
      rw [chars, ← List.cons_append, List.getLast?_concat]
      decide

/-- A keyword is no letter, and a class name is shorter than its descriptor. -/
theorem toList_sourceName_ne (e : Element) : e.sourceName.toList ≠ e.chars := by
  cases e with
  | primitive p => cases p <;> decide
  | object name =>
      intro same
      have lengths := congrArg List.length same
      simp only [sourceName_object, toList_dotted, chars, List.length_map, List.length_cons,
        List.length_append] at lengths
      omega

end Element

theorem Shape.sourceName_ne_text (s : Shape) : s.sourceName ≠ s.descriptor.text := by
  obtain ⟨rank, element⟩ := s
  intro same
  have shown := congrArg String.toList same
  change (element.sourceName ++ brackets rank).toList =
    (Shape.descriptor ⟨rank, element⟩).chars at shown
  rw [descriptor, Descriptor.chars_ofChars] at shown
  cases rank with
  | zero =>
      simp only [brackets, List.replicate_zero, String.join_nil, String.append_empty,
        List.nil_append] at shown
      exact element.toList_sourceName_ne shown
  | succ n =>
      -- with brackets at its end the spelling ends like no descriptor
      have last := congrArg List.getLast? shown
      rw [getLast?_append_brackets, List.getLast?_append] at last
      rcases Option.or_eq_some_iff.mp last.symm with behind | ⟨nothing, -⟩
      · exact element.getLast?_chars_ne behind
      · exact element.chars_ne_nil (List.getLast?_eq_none_iff.mp nothing)

namespace Descriptor

/-- Behind the array marks stands the letter of a primitive, or a text between `L` and `;`. -/
def WellFormed (d : Descriptor) : Prop :=
  (∃ p : Primitive, d.elementChars = [p.letter]) ∨
    ∃ name : String, d.elementChars = 'L' :: (name.toList ++ [';'])

/-- The descriptor with more array marks in front. -/
def marked (n : Nat) (d : Descriptor) : Descriptor :=
  ofChars (List.replicate n arrayMark ++ d.chars)

theorem head?_elementChars_ne (d : Descriptor) : d.elementChars.head? ≠ some arrayMark := by
  intro same
  have stop := List.head?_dropWhile_not (· == arrayMark) d.chars
  rw [show d.chars.dropWhile (· == arrayMark) = d.elementChars from rfl, same] at stop
  exact absurd stop (by decide)

theorem chars_marked (n : Nat) (d : Descriptor) :
    (d.marked n).chars = List.replicate (d.rank + n) arrayMark ++ d.elementChars := by
  rw [marked, chars_ofChars, chars_eq, ← List.append_assoc, List.replicate_append_replicate,
    Nat.add_comm]

theorem rank_marked (n : Nat) (d : Descriptor) : (d.marked n).rank = d.rank + n := by
  rw [rank, chars_marked, takeWhile_arrayMark d.head?_elementChars_ne, List.length_replicate]

theorem elementChars_marked (n : Nat) (d : Descriptor) :
    (d.marked n).elementChars = d.elementChars := by
  rw [elementChars, chars_marked, dropWhile_arrayMark d.head?_elementChars_ne]

theorem wellFormed_marked {n : Nat} {d : Descriptor} : (d.marked n).WellFormed ↔ d.WellFormed := by
  rw [WellFormed, elementChars_marked, WellFormed]

theorem wellFormed_iff_elementChars {d : Descriptor} :
    d.WellFormed ↔ ∃ e : Element, d.elementChars = e.chars := by
  constructor
  · rintro (⟨p, letter⟩ | ⟨name, text⟩)
    · exact ⟨.primitive p, letter⟩
    · exact ⟨.object name, text⟩
  · rintro ⟨e, text⟩
    cases e with
    | primitive p => exact .inl ⟨p, text⟩
    | object name => exact .inr ⟨name, text⟩

theorem shape?_of_elementChars {d : Descriptor} {e : Element} (h : d.elementChars = e.chars) :
    d.shape? = some ⟨d.rank, e⟩ := by
  rw [shape?, h, Element.ofChars?_chars, Option.map_some]

theorem elementChars_descriptor (s : Shape) : s.descriptor.elementChars = s.element.chars := by
  rw [elementChars, Shape.descriptor, chars_ofChars, dropWhile_arrayMark s.element.head?_chars_ne]

theorem wellFormed_iff {d : Descriptor} : d.WellFormed ↔ ∃ s : Shape, d = s.descriptor := by
  rw [wellFormed_iff_elementChars]
  constructor
  · rintro ⟨e, text⟩
    exact ⟨⟨d.rank, e⟩, shape?_eq_some_iff.mp (shape?_of_elementChars text)⟩
  · rintro ⟨s, rfl⟩
    exact ⟨s.element, elementChars_descriptor s⟩

theorem wellFormed_iff_isSome_shape? {d : Descriptor} : d.WellFormed ↔ d.shape?.isSome := by
  rw [wellFormed_iff, Option.isSome_iff_exists]
  simp only [shape?_eq_some_iff]

instance (d : Descriptor) : Decidable d.WellFormed :=
  decidable_of_iff _ wellFormed_iff_isSome_shape?.symm

theorem sourceName_descriptor (s : Shape) : s.descriptor.sourceName = s.sourceName := by
  simp only [sourceName, shape?_descriptor]

theorem sourceName_of_elementChars {d : Descriptor} {e : Element} (h : d.elementChars = e.chars) :
    d.sourceName = e.sourceName ++ brackets d.rank := by
  rw [sourceName, shape?_of_elementChars h]
  rfl

theorem sourceName_of_not_wellFormed {d : Descriptor} (h : ¬ d.WellFormed) :
    d.sourceName = d.text := by
  rw [wellFormed_iff_isSome_shape?, Option.not_isSome_iff_eq_none] at h
  rw [sourceName, h]

theorem sourceName_eq_text_iff {d : Descriptor} : d.sourceName = d.text ↔ ¬ d.WellFormed := by
  constructor
  · intro same formed
    obtain ⟨s, rfl⟩ := wellFormed_iff.mp formed
    rw [sourceName_descriptor] at same
    exact s.sourceName_ne_text same
  · exact sourceName_of_not_wellFormed

theorem sourceName_marked {d : Descriptor} (h : d.WellFormed) (n : Nat) :
    (d.marked n).sourceName = d.sourceName ++ brackets n := by
  obtain ⟨e, text⟩ := wellFormed_iff_elementChars.mp h
  have further : (d.marked n).elementChars = e.chars := (elementChars_marked n d).trans text
  rw [sourceName_of_elementChars further, sourceName_of_elementChars text, rank_marked,
    brackets_add, String.append_assoc]

/-- The marks in front and the text behind them make the descriptor, and they tell its spelling. -/
theorem sourceName_spelled (d : Descriptor) :
    (d.chars = List.replicate d.rank '[' ++ d.elementChars ∧ d.elementChars.head? ≠ some '[') ∧
    (∀ p : Primitive, d.elementChars = [p.letter] →
      d.sourceName = p.keyword ++ brackets d.rank) ∧
    (∀ name : String, d.elementChars = 'L' :: (name.toList ++ [';']) →
      d.sourceName = dotted name ++ brackets d.rank) ∧
    (d.sourceName = d.text ↔ ¬ d.WellFormed) ∧
    (∀ n, d.WellFormed → (d.marked n).sourceName = d.sourceName ++ brackets n) ∧
    (∀ n, ¬ d.WellFormed → (d.marked n).sourceName = (d.marked n).text) := by
  refine ⟨⟨d.chars_eq, d.head?_elementChars_ne⟩, ?_, ?_, sourceName_eq_text_iff, ?_, ?_⟩
  · intro p letter
    exact sourceName_of_elementChars (e := .primitive p) letter
  · intro name text
    exact sourceName_of_elementChars (e := .object name) text
  · intro n formed
    exact sourceName_marked formed n
  · intro n unformed
    exact sourceName_of_not_wellFormed fun formed => unformed (wellFormed_marked.mp formed)

/-- Only the last `;` closes a class name, each letter has a keyword of its own, and a text that is
not closed keeps its marks. -/
theorem sourceName_spelled_inner_end :
    let d : Descriptor := ⟨"[[La/é;b;"⟩
    let e : Descriptor := ⟨"[La/é"⟩
    d.sourceName = "a.é;b[][]" ∧ (d.marked 1).sourceName = "a.é;b[][][]" ∧
      (Primitive.all.map fun p => (ofChars ['[', p.letter]).sourceName) =
        ["void[]", "boolean[]", "byte[]", "short[]", "char[]", "int[]", "long[]", "float[]",
          "double[]"] ∧
      e.sourceName = "[La/é" ∧ (e.marked 1).sourceName = "[[La/é" := by
  intro d e
  obtain ⟨-, -, named, -, further, -⟩ := sourceName_spelled d
  obtain ⟨-, -, -, kept, -, still⟩ := sourceName_spelled e
  have lettered (p : Primitive) : (ofChars ['[', p.letter]).sourceName = p.keyword ++ "[]" := by
    obtain ⟨-, spelled, -⟩ := sourceName_spelled (ofChars ['[', p.letter])
    have letter : (ofChars ['[', p.letter]).elementChars = [p.letter] := by cases p <;> decide
    have rank : (ofChars ['[', p.letter]).rank = 1 := by cases p <;> decide
    rw [spelled p letter, rank]
    rfl
  have spelled : d.sourceName = "a.é;b[][]" := by
    rw [named "a/é;b" (by decide), ← String.toList_inj, String.toList_append, toList_dotted]
    decide
  have unformed : ¬ e.WellFormed := by decide
  refine ⟨spelled, ?_, ?_, kept.mpr unformed, ?_⟩
  · rw [further 1 (by decide), spelled]
    decide
  · simp only [lettered]
    decide
  · exact (still 1 unformed).trans (by decide)

end Descriptor

end DexMethod
