import DexMethod.Access.Stored
import DexMethod.Proofs.Numeral
import DexMethod.Proofs.Separator

/-!
# What reading a stored word keeps and reports

A stored word falls into the bits that have a name, which are kept, and those that have none, which
are reported. Main statement: the two parts share no bit and make up the word, so that nothing is
lost between the word that is kept and the log, even when the log is read as text.
-/

namespace DexMethod

/-- The log as it is written. -/
def Logged.lines {α : Type} (answer : Logged α) : List (Level × String) :=
  answer.log.map fun e => (e.level, e.message)

theorem Event.message_droppedBits (dropped raw : BitVec 32) :
    (droppedBits dropped raw).message =
      "Dropping unknown access flag bits " ++ hexNumeral dropped.toNat ++ " from " ++
        hexNumeral raw.toNat := rfl

/-- The first space behind a numeral ends it. -/
theorem Event.message_droppedBits_inj {dropped raw dropped' raw' : BitVec 32}
    (h : (droppedBits dropped raw).message = (droppedBits dropped' raw').message) :
    dropped = dropped' ∧ raw = raw' := by
  have spaced (s t : String) :
      (s ++ (" from " ++ t)).toList = s.toList ++ ' ' :: ("from " ++ t).toList := by
    have first : " from ".toList = ' ' :: "from ".toList := by decide
    simp only [String.toList_append, first, List.cons_append]
  simp only [message_droppedBits, String.append_assoc, String.append_right_inj] at h
  have shown := congrArg String.toList h
  rw [spaced, spaced] at shown
  obtain ⟨first, rest⟩ := append_separator_inj (space_not_mem_hexNumeral _)
    (space_not_mem_hexNumeral _) shown
  have second := (String.append_right_inj "from ").mp (String.toList_inj.mp rest)
  exact ⟨BitVec.eq_of_toNat_eq (hexNumeral_inj (String.toList_inj.mp first)),
    BitVec.eq_of_toNat_eq (hexNumeral_inj second)⟩

namespace Access.Word

theorem bits_truncate_and_unknown (w : Word) : w.truncate.bits &&& w.unknown.bits = 0 := by
  apply BitVec.eq_of_getLsbD_eq
  intro i bound
  simp only [unknown, bits_truncate, bits_sdiff, BitVec.getLsbD_and, BitVec.getLsbD_not, bound]
  cases w.bits.getLsbD i <;> cases known.bits.getLsbD i <;> simp

theorem bits_truncate_or_unknown (w : Word) : w.truncate.bits ||| w.unknown.bits = w.bits := by
  apply BitVec.eq_of_getLsbD_eq
  intro i bound
  simp only [unknown, bits_truncate, bits_sdiff, BitVec.getLsbD_or, BitVec.getLsbD_and,
    BitVec.getLsbD_not, bound]
  cases w.bits.getLsbD i <;> cases known.bits.getLsbD i <;> rfl

/-- As the parts share no bit, taking one away leaves the other. -/
theorem bits_sub_truncate (w : Word) : w.bits - w.truncate.bits = w.unknown.bits := by
  have sum : w.truncate.bits + w.unknown.bits = w.bits := by
    rw [BitVec.add_eq_or_of_and_eq_zero _ _ w.bits_truncate_and_unknown,
      w.bits_truncate_or_unknown]
  rw [← sum, BitVec.add_comm, BitVec.add_sub_cancel]

theorem unknown_eq_empty_iff {w : Word} : w.unknown = ∅ ↔ w.truncate.bits = w.bits := by
  rw [← bits_inj, bits_empty]
  constructor
  · intro nothing
    have parts := w.bits_truncate_or_unknown
    rw [nothing] at parts
    exact BitVec.or_zero.symm.trans parts
  · intro all
    rw [← bits_sub_truncate, all, BitVec.sub_self]
    rfl

theorem ofStored_of_known {raw : BitVec 32} (h : (Word.mk raw).truncate.bits = raw) :
    ofStored raw = ⟨(Word.mk raw).truncate, []⟩ := by
  rw [ofStored]
  exact congrArg _ (if_pos (unknown_eq_empty_iff.mpr h))

theorem ofStored_of_unknown {raw : BitVec 32} (h : (Word.mk raw).truncate.bits ≠ raw) :
    ofStored raw = ⟨(Word.mk raw).truncate, [.droppedBits (Word.mk raw).unknown.bits raw]⟩ := by
  rw [ofStored]
  exact congrArg _ (if_neg (mt unknown_eq_empty_iff.mp h))

theorem lines_ofStored_eq_nil_iff {raw : BitVec 32} :
    (ofStored raw).lines = [] ↔ (ofStored raw).value.bits = raw := by
  by_cases h : (Word.mk raw).truncate.bits = raw
  · rw [ofStored_of_known h]
    exact iff_of_true rfl h
  · rw [ofStored_of_unknown h]
    exact iff_of_false (List.cons_ne_nil _ _) h

/-- The word that is kept and the text of the log tell what was stored. -/
theorem ofStored_inj {raw other : BitVec 32} (value : (ofStored raw).value = (ofStored other).value)
    (lines : (ofStored raw).lines = (ofStored other).lines) : raw = other := by
  by_cases all : (ofStored raw).lines = []
  · rw [← lines_ofStored_eq_nil_iff.mp all, value]
    exact lines_ofStored_eq_nil_iff.mp (lines ▸ all)
  · have lost : (Word.mk raw).truncate.bits ≠ raw := mt lines_ofStored_eq_nil_iff.mpr all
    have lost' : (Word.mk other).truncate.bits ≠ other :=
      mt lines_ofStored_eq_nil_iff.mpr (lines ▸ all)
    rw [ofStored_of_unknown lost, ofStored_of_unknown lost'] at lines
    have message := congrArg Prod.snd (List.cons.inj lines).1
    exact (Event.message_droppedBits_inj message).2

/-- Reading a stored word keeps the named bits and reports the others with the word they were in,
if there are any; what was stored can be told from the two, and what is kept is read as it is. -/
theorem ofStored_partition (raw : BitVec 32) :
    (ofStored raw).value.bits = raw &&& 0x437FFF#32 ∧
    let kept := (ofStored raw).value.bits
    let lost := raw - kept
    kept &&& lost = 0 ∧ kept ||| lost = raw ∧
    ((ofStored raw).lines = [] ↔ kept = raw) ∧
    (kept ≠ raw → ∃ lostText rawText, ofHexNumeral? lostText = some lost.toNat ∧
      ofHexNumeral? rawText = some raw.toNat ∧ (ofStored raw).lines =
        [(.warn, "Dropping unknown access flag bits " ++ lostText ++ " from " ++ rawText)]) ∧
    (∀ other, (ofStored raw).value = (ofStored other).value →
      (ofStored raw).lines = (ofStored other).lines → raw = other) ∧
    ofStored kept = ⟨(ofStored raw).value, []⟩ := by
  refine ⟨?_, ?_⟩
  · rw [← known_bits]
    rfl
  intro kept lost
  have unknown : lost = (Word.mk raw).unknown.bits := bits_sub_truncate ⟨raw⟩
  refine ⟨?_, ?_, lines_ofStored_eq_nil_iff, ?_, fun _ => ofStored_inj, ?_⟩
  · rw [unknown]
    exact bits_truncate_and_unknown ⟨raw⟩
  · rw [unknown]
    exact bits_truncate_or_unknown ⟨raw⟩
  · intro dropped
    refine ⟨hexNumeral lost.toNat, hexNumeral raw.toNat, ofHexNumeral?_hexNumeral _,
      ofHexNumeral?_hexNumeral _, ?_⟩
    rw [ofStored_of_unknown dropped, unknown]
    rfl
  · have known : (Word.mk kept).truncate = Word.mk kept := truncate_truncate ⟨raw⟩
    rw [ofStored_of_known (congrArg bits known), known]

/-- Bits 31 and 15 have no name. Without bit 15 the same word is kept, and the log is another. -/
theorem ofStored_partition_gap :
    let raw := 0x80408009#32
    let other := 0x80400009#32
    (ofStored raw).value.bits = 0x400009#32 ∧ (ofStored raw).value.bits ≠ raw ∧
      (∃ lostText rawText, ofHexNumeral? lostText = some 0x80008000 ∧
        ofHexNumeral? rawText = some 0x80408009 ∧ (ofStored raw).lines =
          [(.warn, "Dropping unknown access flag bits " ++ lostText ++ " from " ++ rawText)]) ∧
      (ofStored raw).value = (ofStored other).value ∧
      (ofStored raw).lines ≠ (ofStored other).lines := by
  intro raw other
  obtain ⟨kept, -, -, -, warned, told, -⟩ := ofStored_partition raw
  have dropped : (ofStored raw).value.bits ≠ raw := by decide
  have value : (ofStored raw).value = (ofStored other).value := by decide
  have lost : (raw - (ofStored raw).value.bits).toNat = 0x80008000 := by decide
  rw [lost] at warned
  refine ⟨kept.trans (by decide), dropped, warned dropped, value, ?_⟩
  intro lines
  exact absurd (told other value lines) (by decide)

end Access.Word

end DexMethod
