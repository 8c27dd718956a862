import DexMethod.Primitive

/-!
# Type descriptors

A descriptor is the text by which the format names a type: `I` is an int, `Lfoo/Bar;` a class,
`[[J` a two-dimensional array of longs. Nothing here checks that a descriptor is well formed:
each question below has an answer for every text, and each looks at just as much of the text
as its rule says. Some rules count characters, one counts bytes; they part on texts that are
no descriptors at all.
-/

namespace DexMethod

/-- A type descriptor as it stands in a file: any text, well formed or not. -/
@[ext] structure Descriptor where
  text : String
  deriving DecidableEq

/-- What the first character of a descriptor says about the type. -/
inductive Category where
  | void
  | primitive
  | widePrimitive
  | object
  | array
  /-- The text is empty or starts with no letter of the format. -/
  | unknown
  deriving DecidableEq

def Category.isReference : Category → Bool
  | .object | .array => true
  | _ => false

def Primitive.category (p : Primitive) : Category :=
  match p with
  | .void => .void
  | p => if p.isWide then .widePrimitive else .primitive

namespace Descriptor

/-- The character in front of an array's element type, once for each dimension. -/
abbrev arrayMark : Char := '['

abbrev objectMark : Char := 'L'

abbrev objectEnd : Char := ';'

def chars (d : Descriptor) : List Char := d.text.toList

def ofChars (l : List Char) : Descriptor := ⟨String.ofList l⟩

@[simp] theorem chars_ofChars (l : List Char) : (ofChars l).chars = l := by simp [chars, ofChars]

@[simp] theorem ofChars_chars (d : Descriptor) : ofChars d.chars = d := by simp [chars, ofChars]

theorem chars_inj {d e : Descriptor} : d.chars = e.chars ↔ d = e := by
  constructor
  · intro h
    rw [← ofChars_chars d, h, ofChars_chars]
  · exact congrArg chars

def isEmpty (d : Descriptor) : Bool := d.text.isEmpty

/-- The category, decided by the first character alone. -/
def category (d : Descriptor) : Category :=
  match d.chars.head? with
  | none => .unknown
  | some c =>
    if c = arrayMark then .array
    else if c = objectMark then .object
    else
      match Primitive.ofLetter? c with
      | some p => p.category
      | none => .unknown

/-- A text of exactly one byte. All primitive descriptors are of this form, and no well-formed
descriptor of another type is. -/
def isPrimitive (d : Descriptor) : Bool := d.text.utf8ByteSize == 1

/-- The primitive whose letter is the whole text. -/
def primitive? (d : Descriptor) : Option Primitive :=
  match d.chars with
  | [c] => Primitive.ofLetter? c
  | _ => none

/-- Whether the text starts with the letter of a 64-bit primitive. -/
def isWide (d : Descriptor) : Bool :=
  match d.chars.head? with
  | some c => c == Primitive.long.letter || c == Primitive.double.letter
  | none => false

def isArray (d : Descriptor) : Bool := d.chars.head? == some arrayMark

def registerWidth (d : Descriptor) : Nat := if d.isWide then 2 else 1

/-- The letter for the type in a shorty: a single character stands for itself, a longer text
for a reference. The empty text has none. -/
def shortyLetter? (d : Descriptor) : Option Char :=
  match d.chars with
  | [] => none
  | [c] => some c
  | _ => some objectMark

def primitivePlaceholder : String := "val"

def arrayPlaceholder : String := "arr"

def objectPlaceholder : String := "obj"

/-- The name for a parameter of this type that has none of its own. -/
def placeholder (d : Descriptor) : String :=
  if d.isPrimitive then primitivePlaceholder
  else if d.isArray then arrayPlaceholder
  else objectPlaceholder

end Descriptor

end DexMethod
