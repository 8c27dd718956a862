import DexMethod.Access.Word

/-!
# Keywords of an access word

Which modifiers a word means on a target, and the line that writes them. Bits without a name
and bits of other targets leave no trace.
-/

namespace DexMethod.Access.Word

/-- The flags in the word that have a meaning on the target, in declaration order. -/
def modifiers (w : Word) (t : Target) : List Flag := t.flags.filter (· ∈ w)

def modifierLine (w : Word) (t : Target) : String :=
  " ".intercalate ((w.modifiers t).map Flag.keyword)

theorem mem_modifiers {w : Word} {t : Target} {f : Flag} :
    f ∈ w.modifiers t ↔ f.validFor t ∧ f ∈ w := by
  simp [modifiers, Target.flags, Flag.mem_all, and_comm]

theorem modifiers_congr {v w : Word} {t : Target}
    (h : ∀ f : Flag, f.validFor t → (f ∈ v ↔ f ∈ w)) : v.modifiers t = w.modifiers t := by
  refine List.filter_congr fun f hf => ?_
  simp only [h f (List.mem_filter.1 hf).2]

end DexMethod.Access.Word
