import DexMethod.Proofs.Access.Modifiers
import DexMethod.Proofs.Separator

/-!
# Reading modifiers back

The modifiers of a word make up all its bits under the mask of the target. No keyword has a space
in it, so the line that writes them can be cut into keywords again, and with it the masked bits
come back.
-/

namespace DexMethod.Access

/-- The bits with a meaning on the target. -/
def Target.maskBits : Target → BitVec 32
  | .method => 0x31DFF#32
  | .field => 0x50DF#32
  | .classDef => 0x761F#32

theorem Target.bits_mask (t : Target) : t.mask.bits = t.maskBits := by
  cases t <;> decide

namespace Flag

theorem all_pairwise : all.Pairwise fun f g => f.ctorIdx < g.ctorIdx := by decide

theorem space_not_mem_keyword (f : Flag) : ' ' ∉ f.keyword.toList := by
  cases f <;> decide

theorem keyword_ne_empty (f : Flag) : f.keyword ≠ "" := by
  cases f <;> decide

/-- The flags that a line names, if all its words are keywords. -/
def ofLine? (line : String) : Option (List Flag) := (lineWords line).mapM ofKeyword?

theorem mapM_ofKeyword?_keyword (l : List Flag) : (l.map keyword).mapM ofKeyword? = some l := by
  induction l with
  | nil => rfl
  | cons f l ih =>
      rw [List.map_cons, List.mapM_cons, ofKeyword?_keyword, ih]
      rfl

theorem space_not_mem_of_mem_map (l : List Flag) : ∀ s ∈ l.map keyword, ' ' ∉ s.toList :=
  List.forall_mem_map.mpr fun f _ => f.space_not_mem_keyword

theorem ne_empty_of_mem_map (l : List Flag) : ∀ s ∈ l.map keyword, s ≠ "" :=
  List.forall_mem_map.mpr fun f _ => f.keyword_ne_empty

theorem ofLine?_intercalate (l : List Flag) :
    ofLine? (" ".intercalate (l.map keyword)) = some l := by
  have words : lineWords (" ".intercalate (l.map keyword)) = l.map keyword :=
    lineWords_intercalate (space_not_mem_of_mem_map l) (ne_empty_of_mem_map l)
  rw [ofLine?, words, mapM_ofKeyword?_keyword]

end Flag

namespace Word

theorem modifiers_pairwise (w : Word) (t : Target) :
    (w.modifiers t).Pairwise fun f g => f.ctorIdx < g.ctorIdx :=
  (Flag.all_pairwise.filter _).filter _

theorem bits_ofFlags_modifiers (w : Word) (t : Target) :
    (ofFlags (w.modifiers t)).bits = w.bits &&& t.maskBits := by
  rw [← Target.bits_mask]
  apply BitVec.eq_of_getLsbD_eq
  intro i _
  apply Bool.eq_iff_iff.mpr
  rw [getLsbD_ofFlags, BitVec.getLsbD_and, Bool.and_eq_true, Target.getLsbD_mask]
  constructor
  · rintro ⟨f, member, rfl⟩
    obtain ⟨valid, inside⟩ := mem_modifiers.mp member
    exact ⟨inside, f, valid, rfl⟩
  · rintro ⟨inside, f, valid, rfl⟩
    exact ⟨f, mem_modifiers.mpr ⟨valid, inside⟩, rfl⟩

theorem ofLine?_modifierLine (w : Word) (t : Target) :
    Flag.ofLine? (w.modifierLine t) = some (w.modifiers t) :=
  Flag.ofLine?_intercalate (w.modifiers t)

theorem modifierLine_eq_iff {v w : Word} {t : Target} :
    v.modifierLine t = w.modifierLine t ↔ v.modifiers t = w.modifiers t := by
  constructor
  · intro h
    have read := congrArg Flag.ofLine? h
    simpa only [ofLine?_modifierLine, Option.some.injEq] using read
  · intro h
    rw [modifierLine, modifierLine, h]

theorem modifiers_empty (t : Target) : (∅ : Word).modifiers t = [] := by
  cases t <;> decide

theorem modifierLine_eq_empty_iff {w : Word} {t : Target} :
    w.modifierLine t = "" ↔ w.modifiers t = [] := by
  have empty : (∅ : Word).modifierLine t = "" := by
    rw [modifierLine, modifiers_empty]
    rfl
  rw [← empty, modifierLine_eq_iff, modifiers_empty]

/-- The line of a word on a target holds the bits under the mask, all of them and no others. -/
theorem modifierLine_masked (w : Word) (t : Target) :
    (w.modifiers t).Pairwise (fun f g => f.ctorIdx < g.ctorIdx) ∧
    (∀ f ∈ w.modifiers t, f.validFor t) ∧
    (ofFlags (w.modifiers t)).bits = w.bits &&& t.maskBits ∧
    Flag.ofLine? (w.modifierLine t) = some (w.modifiers t) ∧
    ∀ v : Word, v.modifierLine t = w.modifierLine t ↔
      v.bits &&& t.maskBits = w.bits &&& t.maskBits := by
  refine ⟨modifiers_pairwise w t, ?_, bits_ofFlags_modifiers w t, ofLine?_modifierLine w t, ?_⟩
  · intro f member
    exact (mem_modifiers.mp member).1
  · intro v
    rw [modifierLine_eq_iff, modifiers_eq_iff, Target.bits_mask]

/-- Bit 6 and bit 7 belong to other flags on a method. -/
theorem modifierLine_masked_shared_bits :
    let w : Word := ⟨0x804000C9⟩
    let v : Word := ⟨0xC9⟩
    Flag.accVolatile ∈ w.modifiers .field ∧ Flag.accVolatile.validFor .field ∧
      v.modifierLine .field = w.modifierLine .field ∧
      Flag.ofLine? (w.modifierLine .field) =
        some [.accPublic, .accStatic, .accVolatile, .accTransient] := by
  intro w v
  have modifiers : w.modifiers .field =
      [.accPublic, .accStatic, .accVolatile, .accTransient] := by decide
  have member : Flag.accVolatile ∈ w.modifiers .field := by simp [modifiers]
  obtain ⟨-, valid, -, read, same⟩ := modifierLine_masked w .field
  rw [modifiers] at read
  exact ⟨member, valid _ member, (same v).mpr (by decide), read⟩

end Word

end DexMethod.Access
