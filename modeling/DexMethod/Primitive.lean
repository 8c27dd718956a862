/-!
# Primitive types

The nine primitive types of the DEX format. Each is written by a letter of its own in a
descriptor and by a keyword in source. Reading a letter inverts writing it.
-/

namespace DexMethod

/-- A primitive type; `void` stands only in return position. -/
inductive Primitive where
  | void | boolean | byte | short | char | int | long | float | double
  deriving DecidableEq

namespace Primitive

def all : List Primitive :=
  [.void, .boolean, .byte, .short, .char, .int, .long, .float, .double]

def letter : Primitive → Char
  | .void => 'V'
  | .boolean => 'Z'
  | .byte => 'B'
  | .short => 'S'
  | .char => 'C'
  | .int => 'I'
  | .long => 'J'
  | .float => 'F'
  | .double => 'D'

def keyword : Primitive → String
  | .void => "void"
  | .boolean => "boolean"
  | .byte => "byte"
  | .short => "short"
  | .char => "char"
  | .int => "int"
  | .long => "long"
  | .float => "float"
  | .double => "double"

instance : ToString Primitive := ⟨keyword⟩

/-- The 64-bit types; a value of one takes two registers. -/
def isWide : Primitive → Bool
  | .long | .double => true
  | _ => false

def ofLetter? : Char → Option Primitive
  | 'V' => some .void
  | 'Z' => some .boolean
  | 'B' => some .byte
  | 'S' => some .short
  | 'C' => some .char
  | 'I' => some .int
  | 'J' => some .long
  | 'F' => some .float
  | 'D' => some .double
  | _ => none

theorem mem_all (p : Primitive) : p ∈ all := by cases p <;> decide

@[simp] theorem ofLetter?_letter (p : Primitive) : ofLetter? p.letter = some p := by
  cases p <;> rfl

theorem ofLetter?_eq_some_iff {c : Char} {p : Primitive} : ofLetter? c = some p ↔ c = p.letter := by
  constructor
  · intro h
    unfold ofLetter? at h
    split at h <;> first | contradiction | (cases h; rfl)
  · rintro rfl
    exact ofLetter?_letter p

end Primitive

end DexMethod
