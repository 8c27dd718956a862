import DexMethod.Access.Word

/-!
# Edits of access words

The ways to change a word, as data: a run of edits is a list. An operand may hold any bits.
-/

namespace DexMethod.Access

/-- One change of an access word. -/
inductive Edit where
  | insert (operand : Word)
  | remove (operand : Word)
  | toggle (operand : Word)
  /-- Clears all but the operand's bits. -/
  | restrict (operand : Word)
  | assign (operand : Word) (on : Bool)
  | clear
  | complement
  deriving DecidableEq

namespace Word

def edit (w : Word) : Edit → Word
  | .insert v => w ∪ v
  | .remove v => w \ v
  | .toggle v => w.symmDiff v
  | .restrict v => w ∩ v
  | .assign v on => if on then w ∪ v else w \ v
  | .clear => ∅
  | .complement => w.complement

def editAll (w : Word) (edits : List Edit) : Word := edits.foldl edit w

end Word

end DexMethod.Access
