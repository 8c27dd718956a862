import DexMethod.Access.Word
import DexMethod.Event

/-!
# Stored access words

Reading a word from a file keeps the bits that have a name. What is dropped is reported, so
that the word and the report together hold all that was stored.
-/

namespace DexMethod.Access.Word

def unknown (w : Word) : Word := w \ known

/-- The known part of a stored word, with one event if that is not all of it. -/
def ofStored (raw : BitVec 32) : Logged Word :=
  let w : Word := ⟨raw⟩
  ⟨w.truncate, if w.unknown = ∅ then [] else [.droppedBits w.unknown.bits raw]⟩

end DexMethod.Access.Word
