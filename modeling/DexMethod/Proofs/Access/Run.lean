import DexMethod.Access.Edit
import DexMethod.Proofs.Access.ModifierLine
import Mathlib.Data.Finset.Dedup
import Mathlib.Data.Finset.SymmDiff

/-!
# Runs of edits on named flags

On one target an edit of a word is an edit of the set of flags that the word names there. Bits
that name none take no part in this, wherever they come from, so a run may as well be followed on
sets of flags, and operands that agree under the mask of the target are interchangeable.
-/

namespace DexMethod.Access

/-- The flags with a meaning on the target that are in the word. -/
def Target.named (t : Target) (w : Word) : Finset Flag := (w.modifiers t).toFinset

namespace Target

variable {t : Target} {v w : Word}

theorem mem_named {f : Flag} : f ∈ t.named w ↔ f.validFor t ∧ f ∈ w := by
  rw [named, List.mem_toFinset, Word.mem_modifiers]

theorem named_union : t.named (v ∪ w) = t.named v ∪ t.named w := by
  ext f
  simp only [mem_named, Finset.mem_union, Word.mem_union]
  tauto

theorem named_sdiff : t.named (v \ w) = t.named v \ t.named w := by
  ext f
  simp only [mem_named, Finset.mem_sdiff, Word.mem_sdiff]
  tauto

theorem named_symmDiff : t.named (v.symmDiff w) = symmDiff (t.named v) (t.named w) := by
  ext f
  simp only [mem_named, Finset.mem_symmDiff, Word.mem_symmDiff]
  tauto

theorem named_inter : t.named (v ∩ w) = t.named v ∩ t.named w := by
  ext f
  simp only [mem_named, Finset.mem_inter, Word.mem_inter]
  tauto

theorem named_empty : t.named ∅ = ∅ := by
  ext f
  simp only [mem_named, Word.not_mem_empty, and_false, Finset.notMem_empty]

theorem named_complement : t.named w.complement = t.flags.toFinset \ t.named w := by
  -- the complement drops bits without a name, and no flag has such a bit
  ext f
  simp only [mem_named, Finset.mem_sdiff, List.mem_toFinset, flags, List.mem_filter, Flag.mem_all,
    Word.mem_complement]
  tauto

theorem filter_mem_named (t : Target) (w : Word) :
    Flag.all.filter (· ∈ t.named w) = w.modifiers t := by
  rw [Word.modifiers, flags, List.filter_filter]
  apply List.filter_congr
  intro f _
  apply Bool.eq_iff_iff.mpr
  rw [decide_eq_true_iff, mem_named, Bool.and_eq_true, decide_eq_true_iff, and_comm]

end Target

/-- The edit as one of a set of flags with a meaning on the target. -/
def Edit.onFlags (t : Target) (s : Finset Flag) : Edit → Finset Flag
  | .insert v => s ∪ t.named v
  | .remove v => s \ t.named v
  | .toggle v => symmDiff s (t.named v)
  | .restrict v => s ∩ t.named v
  | .assign v on => if on then s ∪ t.named v else s \ t.named v
  | .clear => ∅
  | .complement => t.flags.toFinset \ s

theorem Target.named_edit (t : Target) (w : Word) (e : Edit) :
    t.named (w.edit e) = e.onFlags t (t.named w) := by
  cases e with
  | insert v => exact named_union
  | remove v => exact named_sdiff
  | toggle v => exact named_symmDiff
  | restrict v => exact named_inter
  | assign v on =>
      cases on with
      | true => exact named_union
      | false => exact named_sdiff
  | clear => exact named_empty
  | complement => exact named_complement

theorem Target.named_editAll (t : Target) (w : Word) (edits : List Edit) :
    t.named (w.editAll edits) = edits.foldl (Edit.onFlags t) (t.named w) := by
  induction edits generalizing w with
  | nil => rfl
  | cons e edits ih =>
      rw [Word.editAll, List.foldl_cons, List.foldl_cons, ← named_edit]
      exact ih (w.edit e)

def Word.masked (t : Target) (w : Word) : Word := ⟨w.bits &&& t.maskBits⟩

/-- The edit with the bits of its operand that have a meaning on the target. -/
def Edit.masked (t : Target) : Edit → Edit
  | .insert v => .insert (v.masked t)
  | .remove v => .remove (v.masked t)
  | .toggle v => .toggle (v.masked t)
  | .restrict v => .restrict (v.masked t)
  | .assign v on => .assign (v.masked t) on
  | .clear => .clear
  | .complement => .complement

theorem Target.named_masked (t : Target) (w : Word) : t.named (w.masked t) = t.named w := by
  have same : (w.masked t).modifiers t = w.modifiers t := by
    rw [Word.modifiers_eq_iff, Target.bits_mask, Word.masked, BitVec.and_assoc, BitVec.and_self]
  rw [named, named, same]

theorem Edit.onFlags_masked (t : Target) (s : Finset Flag) (e : Edit) :
    (e.masked t).onFlags t s = e.onFlags t s := by
  cases e <;> simp only [masked, onFlags, Target.named_masked]

theorem Edit.foldl_masked (t : Target) (s : Finset Flag) (edits : List Edit) :
    (edits.map (masked t)).foldl (onFlags t) s = edits.foldl (onFlags t) s := by
  rw [List.foldl_map]
  simp only [onFlags_masked]

end DexMethod.Access
