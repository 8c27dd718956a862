/-!
# Texts with separators

A text made of parts with a separator between them falls back into those parts if the first
character of the separator is in none of them.
-/

namespace DexMethod

variable {α : Type}

/-- The first separator ends the part in front of it. -/
theorem append_separator_inj {c : α} {x y s t : List α} (hx : c ∉ x) (hy : c ∉ y)
    (h : x ++ c :: s = y ++ c :: t) : x = y ∧ s = t := by
  induction x generalizing y with
  | nil =>
      cases y with
      | nil => exact ⟨rfl, (List.cons.inj h).2⟩
      | cons b y =>
          have same : c = b := (List.cons.inj h).1
          exact absurd (by simp [same]) hy
  | cons a x ih =>
      cases y with
      | nil =>
          have same : a = c := (List.cons.inj h).1
          exact absurd (by simp [same]) hx
      | cons b y =>
          obtain ⟨rfl, rest⟩ := List.cons.inj h
          obtain ⟨rfl, tails⟩ := ih (fun m => hx (List.mem_cons_of_mem _ m))
            (fun m => hy (List.mem_cons_of_mem _ m)) rest
          exact ⟨rfl, tails⟩

/-- No parts and one empty part look alike, so neither side may be without parts. -/
theorem intercalate_inj {c : α} {sep : List α} {xs ys : List (List α)}
    (hx : ∀ x ∈ xs, c ∉ x) (hy : ∀ y ∈ ys, c ∉ y) (nx : xs ≠ []) (ny : ys ≠ [])
    (h : (c :: sep).intercalate xs = (c :: sep).intercalate ys) : xs = ys := by
  induction xs generalizing ys with
  | nil => exact absurd rfl nx
  | cons x xs ih =>
      cases ys with
      | nil => exact absurd rfl ny
      | cons y ys =>
          have hcx : c ∉ x := hx x List.mem_cons_self
          have hcy : c ∉ y := hy y List.mem_cons_self
          cases xs with
          | nil =>
              cases ys with
              | nil => simpa only [List.intercalate_singleton] using congrArg (fun l => [l]) h
              | cons y' ys =>
                  -- the right side goes on with a separator, which is not in the last part
                  rw [List.intercalate_singleton, List.intercalate_cons_cons] at h
                  exact absurd (by simp [h]) hcx
          | cons x' xs =>
              cases ys with
              | nil =>
                  rw [List.intercalate_singleton, List.intercalate_cons_cons] at h
                  exact absurd (by simp [← h]) hcy
              | cons y' ys =>
                  rw [List.intercalate_cons_cons, List.intercalate_cons_cons] at h
                  simp only [List.append_assoc, List.cons_append] at h
                  obtain ⟨rfl, tails⟩ := append_separator_inj hcx hcy h
                  have rest := List.append_cancel_left tails
                  rw [ih (fun z m => hx z (List.mem_cons_of_mem _ m))
                    (fun z m => hy z (List.mem_cons_of_mem _ m))
                    (List.cons_ne_nil _ _) (List.cons_ne_nil _ _) rest]

theorem mem_intercalate_cons {a : α} {x : List α} (h : a ∈ x) (sep : List α) (xs : List (List α)) :
    a ∈ sep.intercalate (x :: xs) := by
  cases xs with
  | nil => simpa only [List.intercalate_singleton] using h
  | cons y ys => simp [List.intercalate_cons_cons, h]

theorem not_mem_intercalate {a : α} {sep : List α} {xs : List (List α)} (hs : a ∉ sep)
    (hx : ∀ x ∈ xs, a ∉ x) : a ∉ sep.intercalate xs := by
  induction xs with
  | nil => exact List.not_mem_nil
  | cons x xs ih =>
      have hhead : a ∉ x := hx x List.mem_cons_self
      have htail := ih fun y m => hx y (List.mem_cons_of_mem _ m)
      cases xs with
      | nil => simpa only [List.intercalate_singleton] using hhead
      | cons y ys => simp [List.intercalate_cons_cons, hhead, hs, htail]

/-- Parts with a separator behind each of them go on as parts with separators between. -/
theorem join_append_intercalate (sep : String) (l : List String) {rest : List String}
    (h : rest ≠ []) :
    String.join (l.map fun s => s ++ sep) ++ sep.intercalate rest =
      sep.intercalate (l ++ rest) := by
  induction l with
  | nil => simp
  | cons s l ih =>
      have more : l ++ rest ≠ [] := by simp [h]
      rw [List.map_cons, String.join_cons, List.cons_append,
        String.intercalate_cons_of_ne_nil more, ← ih]
      simp only [String.append_assoc]

/-- With a separator behind each part, the last one stands behind the parts with separators
between. -/
theorem join_append_eq_intercalate (sep : String) {l : List String} (h : l ≠ []) :
    String.join (l.map fun s => s ++ sep) = sep.intercalate l ++ sep := by
  obtain ⟨parts, last, rfl⟩ : ∃ parts last, l = parts ++ [last] :=
    ⟨l.dropLast, l.getLast h, (List.dropLast_concat_getLast h).symm⟩
  have between := join_append_intercalate sep parts (List.cons_ne_nil last [])
  rw [String.intercalate_singleton] at between
  rw [← between, List.map_append, String.join_append, String.append_assoc]
  rfl

/-- The words of a line with a space between them; the empty line has none. -/
def lineWords (line : String) : List String :=
  if line = "" then [] else (line.split ' ').toList.map fun slice => slice.copy

theorem lineWords_intercalate {l : List String} (spaces : ∀ s ∈ l, ' ' ∉ s.toList)
    (filled : ∀ s ∈ l, s ≠ "") : lineWords (" ".intercalate l) = l := by
  cases l with
  | nil => rfl
  | cons s l =>
      have line : " ".intercalate (s :: l) ≠ "" := by
        have first : s ≠ "" := filled s List.mem_cons_self
        cases l with
        | nil => rwa [String.intercalate_singleton]
        | cons t l => simp [String.append_eq_empty_iff, first]
      rw [lineWords, if_neg line]
      exact String.toList_split_intercalate spaces

end DexMethod
