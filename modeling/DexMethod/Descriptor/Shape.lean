import DexMethod.Descriptor.Basic

/-!
# Shapes of well-formed descriptors

A well-formed descriptor is some array marks in front of a primitive letter or of a class name
between `L` and `;`. `Shape` is that structure; `Shape.descriptor` writes it, and
`Descriptor.shape?` reads exactly what that writes. The class name may be any text at all, so
only the last `;` closes it.

Source names are a matter of shapes: a descriptor without one keeps its text.
-/

namespace DexMethod

/-- The type that is left when all array dimensions are taken away. -/
inductive Element where
  | primitive (type : Primitive)
  /-- A class, by its name with `/` between packages. -/
  | object (name : String)
  deriving DecidableEq

/-- An element type and the number of array dimensions around it. -/
@[ext] structure Shape where
  rank : Nat
  element : Element
  deriving DecidableEq

namespace Element

def chars : Element → List Char
  | .primitive p => [p.letter]
  | .object name => Descriptor.objectMark :: (name.toList ++ [Descriptor.objectEnd])

/-- Reads an element that takes up all the characters. -/
def ofChars? : List Char → Option Element
  | [] => none
  | c :: rest =>
    if c = Descriptor.objectMark then
      if rest.getLast? = some Descriptor.objectEnd then some (.object (String.ofList rest.dropLast))
      else none
    else if rest = [] then (Primitive.ofLetter? c).map .primitive
    else none

@[simp] theorem ofChars?_chars (e : Element) : ofChars? e.chars = some e := by
  cases e with
  | primitive p => cases p <;> rfl
  | object name => simp [ofChars?, chars]

theorem ofChars?_eq_some_iff {l : List Char} {e : Element} : ofChars? l = some e ↔ l = e.chars := by
  constructor
  · intro h
    cases l with
    | nil => simp [ofChars?] at h
    | cons c rest =>
      simp only [ofChars?] at h
      by_cases hc : c = Descriptor.objectMark
      · by_cases he : rest.getLast? = some Descriptor.objectEnd
        · rw [if_pos hc, if_pos he, Option.some.injEq] at h
          subst h
          obtain ⟨name, rfl⟩ := List.getLast?_eq_some_iff.1 he
          simp [chars, hc]
        · simp [hc, he] at h
      · by_cases hr : rest = []
        · rw [if_neg hc, if_pos hr] at h
          obtain ⟨p, hp, rfl⟩ := Option.map_eq_some_iff.1 h
          rw [Primitive.ofLetter?_eq_some_iff] at hp
          rw [hp, hr, chars]
        · simp [hc, hr] at h
  · rintro rfl
    exact ofChars?_chars e

theorem head?_chars_ne (e : Element) : e.chars.head? ≠ some Descriptor.arrayMark := by
  cases e with
  | primitive p => cases p <;> decide
  | object name => simp [chars, Descriptor.objectMark, Descriptor.arrayMark]

/-- The name in source: a primitive's keyword, or the class name with dots between packages. -/
def sourceName : Element → String
  | .primitive p => p.keyword
  | .object name => name.map fun c => if c = '/' then '.' else c

end Element

namespace Shape

def descriptor (s : Shape) : Descriptor :=
  .ofChars (List.replicate s.rank Descriptor.arrayMark ++ s.element.chars)

/-- The name in source: the element's, then a pair of brackets for each dimension. -/
def sourceName (s : Shape) : String :=
  s.element.sourceName ++ String.join (List.replicate s.rank "[]")

end Shape

namespace Descriptor

def rank (d : Descriptor) : Nat := (d.chars.takeWhile (· == arrayMark)).length

def elementChars (d : Descriptor) : List Char := d.chars.dropWhile (· == arrayMark)

theorem takeWhile_arrayMark {l : List Char} (h : l.head? ≠ some arrayMark) (n : Nat) :
    (List.replicate n arrayMark ++ l).takeWhile (· == arrayMark) = List.replicate n arrayMark := by
  rw [List.takeWhile_append_of_pos fun c hc => by simp [List.eq_of_mem_replicate hc]]
  cases l with
  | nil => simp
  | cons c rest =>
    have hc : (c == arrayMark) = false := by simpa using h
    simp [hc]

theorem dropWhile_arrayMark {l : List Char} (h : l.head? ≠ some arrayMark) (n : Nat) :
    (List.replicate n arrayMark ++ l).dropWhile (· == arrayMark) = l := by
  rw [List.dropWhile_append_of_pos fun c hc => by simp [List.eq_of_mem_replicate hc]]
  cases l with
  | nil => rfl
  | cons c rest =>
    have hc : (c == arrayMark) = false := by simpa using h
    simp [hc]

theorem chars_eq (d : Descriptor) : d.chars = List.replicate d.rank arrayMark ++ d.elementChars := by
  have h : d.chars.takeWhile (· == arrayMark) = List.replicate d.rank arrayMark :=
    List.eq_replicate_iff.2 ⟨rfl, fun c hc => by
      simpa using List.all_eq_true.1 List.all_takeWhile c hc⟩
  rw [elementChars, ← h, List.takeWhile_append_dropWhile]

def shape? (d : Descriptor) : Option Shape :=
  (Element.ofChars? d.elementChars).map fun e => ⟨d.rank, e⟩

@[simp] theorem shape?_descriptor (s : Shape) : s.descriptor.shape? = some s := by
  have h := s.element.head?_chars_ne
  simp [shape?, elementChars, rank, Shape.descriptor, takeWhile_arrayMark h, dropWhile_arrayMark h]

/-- The well-formed descriptors are those that shapes have. -/
theorem shape?_eq_some_iff {d : Descriptor} {s : Shape} : d.shape? = some s ↔ d = s.descriptor := by
  constructor
  · intro h
    obtain ⟨e, he, rfl⟩ := Option.map_eq_some_iff.1 h
    rw [Element.ofChars?_eq_some_iff] at he
    rw [Shape.descriptor, ← he, ← chars_eq, ofChars_chars]
  · rintro rfl
    exact shape?_descriptor s

/-- The name of the type in source; a text that is no descriptor stands for itself. -/
def sourceName (d : Descriptor) : String :=
  match d.shape? with
  | some s => s.sourceName
  | none => d.text

end Descriptor

end DexMethod
