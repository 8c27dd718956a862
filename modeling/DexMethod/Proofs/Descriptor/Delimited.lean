import DexMethod.Descriptor.Shape
import DexMethod.Proofs.Separator

/-!
# Descriptors that end themselves

A class name without `;` is closed by the first one behind it. A descriptor with no other class
name therefore shows where it ends, whatever follows, and several in a row fall apart in one way
only.
-/

namespace DexMethod

/-- The element closes itself; a class name may hold any other character of the format. -/
def Element.Closed : Element → Prop
  | .primitive _ => True
  | .object name => Descriptor.objectEnd ∉ name.toList

instance : DecidablePred Element.Closed
  | .primitive _ => isTrue trivial
  | .object name => inferInstanceAs (Decidable (Descriptor.objectEnd ∉ name.toList))

theorem Primitive.letter_inj {p q : Primitive} (h : p.letter = q.letter) : p = q := by
  have read := congrArg Primitive.ofLetter? h
  simpa only [Primitive.ofLetter?_letter, Option.some.injEq] using read

theorem Primitive.letter_ne_objectMark (p : Primitive) : p.letter ≠ Descriptor.objectMark := by
  cases p <;> decide

theorem Element.head?_chars_append_ne (e : Element) (x : List Char) :
    (e.chars ++ x).head? ≠ some Descriptor.arrayMark := by
  have same : (e.chars ++ x).head? = e.chars.head? := by cases e <;> rfl
  rw [same]
  exact e.head?_chars_ne

theorem Element.chars_append_inj {e f : Element} (he : e.Closed) (hf : f.Closed)
    {x y : List Char} (h : e.chars ++ x = f.chars ++ y) : e = f ∧ x = y := by
  cases e with
  | primitive p =>
      cases f with
      | primitive q =>
          obtain ⟨letters, rest⟩ := List.cons.inj h
          exact ⟨congrArg Element.primitive (Primitive.letter_inj letters), rest⟩
      | object name => exact absurd (List.cons.inj h).1 p.letter_ne_objectMark
  | object name =>
      cases f with
      | primitive q => exact absurd (List.cons.inj h).1.symm q.letter_ne_objectMark
      | object name' =>
          simp only [chars, List.cons_append, List.append_assoc, List.nil_append, List.cons.injEq,
            true_and] at h
          obtain ⟨names, rest⟩ := append_separator_inj he hf h
          exact ⟨congrArg Element.object (String.toList_inj.mp names), rest⟩

theorem Shape.chars_append_inj {s t : Shape} (hs : s.element.Closed) (ht : t.element.Closed)
    {x y : List Char} (h : s.descriptor.chars ++ x = t.descriptor.chars ++ y) :
    s = t ∧ x = y := by
  have hx := s.element.head?_chars_append_ne x
  have hy := t.element.head?_chars_append_ne y
  simp only [Shape.descriptor, Descriptor.chars_ofChars, List.append_assoc] at h
  -- the marks are counted on both sides, and behind them the elements are left
  have ranks := congrArg (List.takeWhile (· == Descriptor.arrayMark)) h
  have rests := congrArg (List.dropWhile (· == Descriptor.arrayMark)) h
  rw [Descriptor.takeWhile_arrayMark hx, Descriptor.takeWhile_arrayMark hy] at ranks
  rw [Descriptor.dropWhile_arrayMark hx, Descriptor.dropWhile_arrayMark hy] at rests
  obtain ⟨elements, tails⟩ := Element.chars_append_inj hs ht rests
  have rank : s.rank = t.rank := by simpa using congrArg List.length ranks
  exact ⟨Shape.ext rank elements, tails⟩

namespace Descriptor

/-- A well-formed descriptor whose class name, if it has one, is without `;`. -/
def Closed (d : Descriptor) : Prop := ∃ s : Shape, d = s.descriptor ∧ s.element.Closed

theorem closed_iff {d : Descriptor} : d.Closed ↔ ∃ s ∈ d.shape?, s.element.Closed := by
  simp only [Closed, Option.mem_def, shape?_eq_some_iff]

instance (d : Descriptor) : Decidable d.Closed := decidable_of_iff _ closed_iff.symm

theorem Closed.append_inj {d e : Descriptor} (hd : d.Closed) (he : e.Closed) {x y : List Char}
    (h : d.chars ++ x = e.chars ++ y) : d = e ∧ x = y := by
  obtain ⟨s, rfl, hs⟩ := hd
  obtain ⟨t, rfl, ht⟩ := he
  obtain ⟨rfl, tails⟩ := Shape.chars_append_inj hs ht h
  exact ⟨rfl, tails⟩

/-- A parenthesis may stand inside a class name but opens no descriptor. -/
theorem Closed.chars_append_ne {d : Descriptor} (h : d.Closed) (x y : List Char) :
    d.chars ++ x ≠ ')' :: y := by
  obtain ⟨⟨rank, element⟩, rfl, -⟩ := h
  intro same
  simp only [Shape.descriptor, chars_ofChars] at same
  cases rank with
  | succ n => exact absurd (List.cons.inj same).1 (by decide)
  | zero =>
      cases element with
      | primitive p => exact absurd (List.cons.inj same).1 (by cases p <;> decide)
      | object name => exact absurd (List.cons.inj same).1 (by decide)

/-- Closed descriptors in a row, up to a closing parenthesis, are read in one way only. -/
theorem flatMap_chars_inj {ds es : List Descriptor} (hd : ∀ d ∈ ds, d.Closed)
    (he : ∀ e ∈ es, e.Closed) {x y : List Char}
    (h : ds.flatMap chars ++ ')' :: x = es.flatMap chars ++ ')' :: y) : ds = es ∧ x = y := by
  induction ds generalizing es with
  | nil =>
      cases es with
      | nil => exact ⟨rfl, (List.cons.inj h).2⟩
      | cons e es =>
          rw [List.flatMap_cons, List.append_assoc] at h
          exact absurd h.symm ((he e List.mem_cons_self).chars_append_ne _ _)
  | cons d ds ih =>
      cases es with
      | nil =>
          rw [List.flatMap_cons, List.append_assoc] at h
          exact absurd h ((hd d List.mem_cons_self).chars_append_ne _ _)
      | cons e es =>
          simp only [List.flatMap_cons, List.append_assoc] at h
          obtain ⟨rfl, rest⟩ := (hd d List.mem_cons_self).append_inj (he e List.mem_cons_self) h
          obtain ⟨rfl, tails⟩ := ih (fun a m => hd a (List.mem_cons_of_mem _ m))
            (fun a m => he a (List.mem_cons_of_mem _ m)) rest
          exact ⟨rfl, tails⟩

end Descriptor

end DexMethod
