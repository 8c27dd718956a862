import DexMethod.Declaration.Source
import DexMethod.Proofs.Access.ModifierLine
import Mathlib.Data.List.Chain

/-!
# The modifiers in front of a declaration

Modifiers are written in two ways: a word has them as a line with spaces between the keywords, and
a declaration puts them in front with a space behind each. Main statement: the second is the first
with one space behind it, or nothing at all if the line is empty, and the rest of a declaration
does not depend on the flags. So no space is missing or written twice, whatever bits are set.
-/

namespace DexMethod
open Access (Flag Target)

/-- The line with a space behind it, if there is something in it. -/
def lead (line : String) : String := if line = "" then "" else line ++ " "

theorem lead_eq_empty_iff {line : String} : lead line = "" ↔ line = "" := by
  unfold lead
  split
  · rename_i empty
    exact iff_of_true rfl empty
  · rename_i filled
    simp [filled, String.append_eq_empty_iff]

theorem lead_inj {s t : String} (h : lead s = lead t) : s = t := by
  have both : s = "" ↔ t = "" := by rw [← lead_eq_empty_iff, h, lead_eq_empty_iff]
  by_cases empty : s = ""
  · rw [empty, both.mp empty]
  · have filled : ¬ t = "" := fun other => empty (both.mpr other)
    rw [lead, lead, if_neg empty, if_neg filled] at h
    exact (String.append_left_inj " ").mp h

/-- Each of the words has one space behind it, and there are no other spaces. -/
structure Spaced (words : List String) (text : String) : Prop where
  /-- Cut at every space, the text gives the words, and nothing stands behind the last space. -/
  cut : (text.split ' ').toList.map (fun slice => slice.copy) = words ++ [""]
  leading : text.toList.head? ≠ some ' '
  doubled : text.toList.IsChain fun a b => a = ' ' → b ≠ ' '

theorem toList_join_spaces_cons (s : String) (l : List String) :
    (String.join ((s :: l).map fun s => s ++ " ")).toList =
      s.toList ++ ' ' :: (String.join (l.map fun s => s ++ " ")).toList := by
  rw [List.map_cons, String.join_cons, String.toList_append, String.toList_append,
    List.append_assoc]
  rfl

theorem head?_join_spaces_ne {l : List String} (spaces : ∀ s ∈ l, ' ' ∉ s.toList)
    (filled : ∀ s ∈ l, s ≠ "") :
    (String.join (l.map fun s => s ++ " ")).toList.head? ≠ some ' ' := by
  cases l with
  | nil => simp
  | cons s l =>
      rw [toList_join_spaces_cons]
      have spaceless : ' ' ∉ s.toList := spaces s List.mem_cons_self
      have nonempty : s.toList ≠ [] := by simpa using filled s List.mem_cons_self
      cases chars : s.toList with
      | nil => exact absurd chars nonempty
      | cons c rest =>
          rw [chars] at spaceless
          intro first
          cases first
          exact spaceless List.mem_cons_self

theorem isChain_join_spaces {l : List String} (spaces : ∀ s ∈ l, ' ' ∉ s.toList)
    (filled : ∀ s ∈ l, s ≠ "") :
    (String.join (l.map fun s => s ++ " ")).toList.IsChain fun a b => a = ' ' → b ≠ ' ' := by
  induction l with
  | nil => exact .nil
  | cons s l ih =>
      have spaces' : ∀ t ∈ l, ' ' ∉ t.toList := fun t m => spaces t (List.mem_cons_of_mem _ m)
      have filled' : ∀ t ∈ l, t ≠ "" := fun t m => filled t (List.mem_cons_of_mem _ m)
      have spaceless : ' ' ∉ s.toList := spaces s List.mem_cons_self
      rw [toList_join_spaces_cons, List.isChain_append]
      refine ⟨?_, List.isChain_cons.mpr ⟨?_, ih spaces' filled'⟩, ?_⟩
      · apply List.isChain_iff_getElem.mpr
        intro i bound space
        exact absurd (space ▸ List.getElem_mem _) spaceless
      · rintro b first - rfl
        exact head?_join_spaces_ne spaces' filled' first
      · rintro a last _ - rfl
        exact absurd (List.mem_of_getLast? last) spaceless

/-- Words that are not empty and have no space in them can be told apart by the spaces. -/
theorem spaced_join {l : List String} (spaces : ∀ s ∈ l, ' ' ∉ s.toList)
    (filled : ∀ s ∈ l, s ≠ "") : Spaced l (String.join (l.map fun s => s ++ " ")) where
  cut := by
    have parts : ∀ s ∈ l ++ [""], ' ' ∉ s.toList := by
      intro s member
      rcases List.mem_append.mp member with word | last
      · exact spaces s word
      · simp [List.mem_singleton.mp last]
    -- the last space stands in front of an empty part
    have line := join_append_intercalate " " l (List.cons_ne_nil "" [])
    rw [String.intercalate_singleton, String.append_empty] at line
    rw [line]
    exact (String.toList_split_intercalate parts).trans (if_neg (by simp))
  leading := head?_join_spaces_ne spaces filled
  doubled := isChain_join_spaces spaces filled

namespace Declaration

theorem modifierText_eq_join (d : Declaration) :
    d.modifierText =
      String.join (((d.flags.modifiers .method).map Flag.keyword).map fun s => s ++ " ") := by
  rw [modifierText, List.map_map]
  rfl

/-- The modifiers in front of a declaration are the line of its flags. -/
theorem modifierText_eq_lead (d : Declaration) :
    d.modifierText = lead (d.flags.modifierLine .method) := by
  unfold lead
  split
  · rename_i empty
    rw [modifierText_eq_join, Access.Word.modifierLine_eq_empty_iff.mp empty]
    rfl
  · rename_i filled
    rw [Access.Word.modifierLine_eq_empty_iff] at filled
    have words : (d.flags.modifiers .method).map Flag.keyword ≠ [] := by simpa using filled
    rw [modifierText_eq_join, join_append_eq_intercalate " " words, Access.Word.modifierLine]

theorem spaced_modifierText (d : Declaration) :
    Spaced ((d.flags.modifiers .method).map Flag.keyword) d.modifierText := by
  rw [modifierText_eq_join]
  exact spaced_join (Flag.space_not_mem_of_mem_map _) (Flag.ne_empty_of_mem_map _)

def withoutFlags (d : Declaration) : Declaration := { d with flags := ∅ }

theorem source_eq_modifierText_append (d : Declaration) :
    d.source = d.modifierText ++ d.withoutFlags.source := by
  have nothing : d.withoutFlags.modifierText = "" := by
    rw [modifierText_eq_join, withoutFlags, Access.Word.modifiers_empty]
    rfl
  unfold source
  rw [nothing, String.empty_append]
  simp only [String.append_assoc]
  rfl

/-- A declaration is the line of its modifiers, with one space behind it unless it is empty, and
the declaration without flags. The line is empty exactly if no bit has a meaning on a method. -/
theorem source_eq_lead_append (d : Declaration) :
    let line := d.flags.modifierLine .method
    d.source = lead line ++ d.withoutFlags.source ∧
      (line = "" ↔ d.flags.bits &&& 0x31DFF#32 = 0) ∧
      Spaced ((d.flags.modifiers .method).map Flag.keyword) (lead line) := by
  intro line
  have front : d.modifierText = lead line := d.modifierText_eq_lead
  refine ⟨?_, ?_, ?_⟩
  · rw [← front, source_eq_modifierText_append]
  · have cleared : (∅ : Access.Word).bits &&& 0x31DFF#32 = 0 := by decide
    rw [Access.Word.modifierLine_eq_empty_iff, ← Access.Word.modifiers_empty .method,
      Access.Word.modifiers_eq_iff, Target.mask_method, cleared]
  · rw [← front]
    exact d.spaced_modifierText

end Declaration

end DexMethod
