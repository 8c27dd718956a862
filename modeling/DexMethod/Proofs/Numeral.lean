import DexMethod.Event
import Mathlib.Data.List.Basic

/-!
# Numerals in texts

A hexadecimal numeral is read by a rule that does not mention how it was written: the mark `0x`,
then digits in lower case with no zero in front of others. The numeral of a number is read as that
number. Of numerals in either base it is also told which separators they keep out.
-/

namespace DexMethod

/-! ## Hexadecimal numerals -/

def hexDigits : List Char := "0123456789abcdef".toList

/-- The value of a digit is its place in the row of digits. -/
def hexDigit? (c : Char) : Option Nat := hexDigits.idxOf? c

/-- The number that digits make behind those that were read before. -/
def readHexDigits (before : Nat) (digits : List Char) : Option Nat :=
  digits.foldlM (fun n c => (hexDigit? c).map fun d => 16 * n + d) before

/-- There are digits, and the first of several is not zero. -/
def Unpadded (digits : List Char) : Prop :=
  digits ≠ [] ∧ (digits.head? = some '0' → digits = ['0'])

instance (digits : List Char) : Decidable (Unpadded digits) :=
  inferInstanceAs (Decidable (_ ∧ _))

def ofHexNumeral? (text : String) : Option Nat :=
  match text.toList with
  | '0' :: 'x' :: digits => if Unpadded digits then readHexDigits 0 digits else none
  | _ => none

theorem hexDigit?_digitChar {d : Nat} (h : d < 16) : hexDigit? d.digitChar = some d := by
  have row : ∀ e < 16, hexDigit? e.digitChar = some e := by decide
  exact row d h

theorem readHexDigits_concat {before n d : Nat} {digits : List Char} (h : d < 16)
    (read : readHexDigits before digits = some n) :
    readHexDigits before (digits ++ [d.digitChar]) = some (16 * n + d) := by
  unfold readHexDigits at read ⊢
  rw [List.foldlM_append, read]
  simp [hexDigit?_digitChar h]

theorem readHexDigits_toDigits (n : Nat) : readHexDigits 0 (Nat.toDigits 16 n) = some n := by
  -- the digits of the number without its last one, which is what division by the base leaves
  induction n using Nat.strongRecOn with
  | ind n ih =>
      by_cases small : n < 16
      · have one := readHexDigits_concat small (show readHexDigits 0 [] = some 0 from rfl)
        rw [Nat.toDigits_of_lt_base small]
        simpa using one
      · have large : 16 ≤ n := Nat.le_of_not_lt small
        have front := ih (n / 16) (by omega)
        rw [Nat.toDigits_of_base_le (by decide) large,
          readHexDigits_concat (Nat.mod_lt n (by decide)) front, Nat.div_add_mod]

theorem unpadded_toDigits (n : Nat) : Unpadded (Nat.toDigits 16 n) := by
  refine ⟨Nat.toDigits_ne_nil, ?_⟩
  induction n using Nat.strongRecOn with
  | ind n ih =>
      intro first
      by_cases small : n < 16
      · rw [Nat.toDigits_of_lt_base small] at first ⊢
        rw [Option.some.inj first]
      · have large : 16 ≤ n := Nat.le_of_not_lt small
        rw [Nat.toDigits_of_base_le (by decide) large,
          List.head?_append_of_ne_nil _ Nat.toDigits_ne_nil] at first
        -- only zero begins with a zero, and what stands in front of the last digit is not zero
        have zero := ih (n / 16) (by omega) first
        have read := readHexDigits_toDigits (n / 16)
        rw [zero] at read
        have : n / 16 = 0 := (Option.some.inj read).symm
        omega

theorem toList_hexNumeral (n : Nat) :
    (hexNumeral n).toList = '0' :: 'x' :: Nat.toDigits 16 n := by
  simp only [hexNumeral, String.toList_append, String.toList_ofList]
  rfl

@[simp] theorem ofHexNumeral?_hexNumeral (n : Nat) : ofHexNumeral? (hexNumeral n) = some n := by
  rw [ofHexNumeral?, toList_hexNumeral]
  exact (if_pos (unpadded_toDigits n)).trans (readHexDigits_toDigits n)

theorem hexNumeral_inj {m n : Nat} (h : hexNumeral m = hexNumeral n) : m = n := by
  have read := congrArg ofHexNumeral? h
  simpa only [ofHexNumeral?_hexNumeral, Option.some.injEq] using read

theorem mem_hexDigits_of_read {before n : Nat} {digits : List Char}
    (h : readHexDigits before digits = some n) : ∀ c ∈ digits, c ∈ hexDigits := by
  induction digits generalizing before with
  | nil => simp
  | cons c rest ih =>
      rw [readHexDigits, List.foldlM_cons] at h
      cases value : hexDigit? c with
      | none => simp [value] at h
      | some d =>
          rw [value] at h
          have here : c ∈ hexDigits := by
            by_contra outside
            have unread : hexDigit? c = none := List.idxOf?_eq_none_iff.mpr outside
            cases value.symm.trans unread
          intro a member
          rcases List.mem_cons.mp member with rfl | later
          · exact here
          · exact ih h a later

theorem space_not_mem_hexNumeral (n : Nat) : ' ' ∉ (hexNumeral n).toList := by
  rw [toList_hexNumeral]
  intro member
  have digit : ' ' ∈ Nat.toDigits 16 n := by simpa using member
  exact absurd (mem_hexDigits_of_read (readHexDigits_toDigits n) _ digit) (by decide)

/-! ## Decimal numerals -/

theorem toList_toString (n : Nat) : (toString n).toList = Nat.toDigits 10 n := by
  rw [Nat.toString_eq_ofList_toDigits, String.toList_ofList]

theorem toList_toString_inj {m n : Nat} (h : (toString m).toList = (toString n).toList) :
    m = n := by
  rw [toList_toString, toList_toString] at h
  calc
    m = Nat.ofDigitChars 10 (Nat.toDigits 10 m) 0 := Nat.ofDigitChars_ten_toDigits.symm
    _ = Nat.ofDigitChars 10 (Nat.toDigits 10 n) 0 := by rw [h]
    _ = n := Nat.ofDigitChars_ten_toDigits

theorem colon_not_mem_toString (n : Nat) : ':' ∉ (toString n).toList := by
  rw [toList_toString]
  intro member
  have digit := Nat.isDigit_of_mem_toDigits (by decide) (by decide) member
  exact absurd digit (by decide)

end DexMethod
