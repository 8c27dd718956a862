import DexMethod.Fault
import DexMethod.Proofs.Numeral
import DexMethod.Proofs.Separator

/-!
# Telling faults by their texts

The line that shows a fault is read from the left: what it starts with tells the kind, the first
colon ends the file and the next one the line number, and all that is left is the message, whatever
stands in it. Main statement: two faults with the same text are the same, unless a file has a colon
in its name.
-/

namespace DexMethod.Fault

/-- Where the fault was found; a value that was never given is found nowhere. -/
def site? : Fault → Option Site
  | .missing _ => none
  | .malformed _ site => some site

/-- The file, if there is one, has no colon in its name. -/
def ColonFree (f : Fault) : Prop := ∀ site ∈ f.site?, ':' ∉ site.file.toList

instance (f : Fault) : Decidable f.ColonFree :=
  match f with
  | .missing _ => isTrue fun _ h => nomatch h
  | .malformed _ site =>
    decidable_of_iff (':' ∉ site.file.toList)
      ⟨fun h _ found => Option.some.inj found ▸ h, fun h => h site rfl⟩

theorem display_missing (what : String) :
    (missing what).display = "Required value was not provided - " ++ what := rfl

theorem display_malformed (message : String) (site : Site) :
    (malformed message site).display =
      "Malformed - " ++ site.file ++ ":" ++ toString site.line.toNat ++ ": " ++ message := rfl

theorem head?_display_missing (what : String) :
    (missing what).display.toList.head? = some 'R' := by
  rw [display_missing, String.toList_append]
  rfl

theorem toList_display_malformed (message : String) (site : Site) :
    (malformed message site).display.toList =
      "Malformed - ".toList ++ (site.file.toList ++ ':' ::
        ((toString site.line.toNat).toList ++ ':' :: ' ' :: message.toList)) := by
  have colon : ":".toList = [':'] := by decide
  have gap : ": ".toList = [':', ' '] := by decide
  simp only [display_malformed, String.toList_append, List.append_assoc, colon, gap,
    List.cons_append, List.nil_append]

theorem head?_display_malformed (message : String) (site : Site) :
    (malformed message site).display.toList.head? = some 'M' := by
  rw [toList_display_malformed]
  rfl

theorem display_missing_ne_malformed (what message : String) (site : Site) :
    (missing what).display ≠ (malformed message site).display := by
  intro same
  have first := congrArg (fun s => s.toList.head?) same
  simp only [head?_display_missing, head?_display_malformed] at first
  cases first

theorem display_missing_inj {what other : String}
    (h : (missing what).display = (missing other).display) : what = other :=
  (String.append_right_inj _).mp h

/-- The first colon ends the file and the second the line, so the message may have colons. -/
theorem display_malformed_inj {message other : String} {site place : Site}
    (hs : ':' ∉ site.file.toList) (hp : ':' ∉ place.file.toList)
    (h : (malformed message site).display = (malformed other place).display) :
    message = other ∧ site = place := by
  have shown := congrArg String.toList h
  rw [toList_display_malformed, toList_display_malformed] at shown
  obtain ⟨file, behindFile⟩ := append_separator_inj hs hp (List.append_cancel_left shown)
  obtain ⟨line, behindLine⟩ := append_separator_inj (colon_not_mem_toString _)
    (colon_not_mem_toString _) behindFile
  have message : message = other := String.toList_inj.mp (List.cons.inj behindLine).2
  refine ⟨message, ?_⟩
  rw [Site.mk.injEq]
  exact ⟨String.toList_inj.mp file, UInt32.toNat_inj.mp (toList_toString_inj line)⟩

/-- The text of a fault tells its kind, and it tells the whole fault if no file has a colon. -/
theorem display_identifies (f g : Fault) :
    (f.display = g.display → (f.site? = none ↔ g.site? = none)) ∧
    (f.ColonFree → g.ColonFree → (f.display = g.display ↔ f = g)) := by
  cases f with
  | missing what =>
      cases g with
      | missing other =>
          refine ⟨fun _ => Iff.rfl, fun _ _ => ⟨?_, congrArg display⟩⟩
          intro same
          rw [display_missing_inj same]
      | malformed message site =>
          have apart := display_missing_ne_malformed what message site
          exact ⟨fun same => absurd same apart, fun _ _ => iff_of_false apart (by simp)⟩
  | malformed message site =>
      cases g with
      | missing what =>
          have apart := (display_missing_ne_malformed what message site).symm
          exact ⟨fun same => absurd same apart, fun _ _ => iff_of_false apart (by simp)⟩
      | malformed other place =>
          refine ⟨fun _ => by simp [site?], fun hf hg => ⟨?_, congrArg display⟩⟩
          intro same
          obtain ⟨rfl, rfl⟩ := display_malformed_inj (hf site rfl) (hg place rfl) same
          rfl

/-- A message may go on like another fault; with a colon in the file, two faults look alike. -/
theorem display_identifies_copied_prefix :
    let f : Fault := .malformed "7: Malformed - b.rs:8:\n x" ⟨"a.rs", 4294967295⟩
    let g : Fault := .malformed "Malformed - b.rs:8:\n x" ⟨"a.rs", 7⟩
    let h : Fault := .malformed "x" ⟨"a.rs:7: b.rs", 8⟩
    let k : Fault := .malformed "b.rs:8: x" ⟨"a.rs", 7⟩
    f.ColonFree ∧ g.ColonFree ∧ f.display ≠ g.display ∧ h.display = k.display ∧ ¬ h.ColonFree := by
  intro f g h k
  have free : f.ColonFree := by decide
  have free' : g.ColonFree := by decide
  have alike : h.display = k.display := by decide
  refine ⟨free, free', ?_, alike, by decide⟩
  intro same
  exact absurd (((display_identifies f g).2 free free').mp same) (by decide)

end DexMethod.Fault
