import DexMethod.Declaration.Dispatch
import DexMethod.Proofs.Access.Modifiers
import Mathlib.Data.List.Basic

/-!
# Splits by dispatch

A split puts each member of a list on one of two sides, by the flags alone. Main statement: the
positions of the members are divided between the sides, which keep them in order, and a split of
parts or of what was split before brings nothing new.
-/

namespace DexMethod
open Access (Flag)

theorem Declaration.isDirect_iff {d : Declaration} :
    d.isDirect = true ↔ ∃ f ∈ [Flag.accStatic, .accPrivate, .accConstructor], f ∈ d.flags := by
  rw [isDirect, directFlags, Access.Word.intersects_ofFlags]

variable {α : Type}

/-- The part has the members at these positions, in the order of the list. -/
structure PickedAt (members part : List α) (positions : List Nat) : Prop where
  increasing : positions.Pairwise (· < ·)
  picks : positions.map (members[·]?) = part.map some

/-- Behind a further member all positions are one higher. -/
theorem map_findIdxs_cons (p : α → Bool) (a : α) (members : List α) :
    (members.findIdxs p 1).map ((a :: members)[·]?) = (members.findIdxs p).map (members[·]?) := by
  rw [List.findIdxs_start, List.map_map]
  rfl

theorem map_findIdxs (p : α → Bool) (members : List α) :
    (members.findIdxs p).map (members[·]?) = (members.filter p).map some := by
  induction members with
  | nil => rfl
  | cons a members ih =>
      rw [List.findIdxs_cons, Nat.zero_add]
      cases kept : p a with
      | true =>
          rw [if_pos rfl, List.map_cons, map_findIdxs_cons, ih, List.filter_cons_of_pos kept]
          rfl
      | false =>
          have dropped : ¬ p a = true := by simp [kept]
          rw [if_neg Bool.false_ne_true, map_findIdxs_cons, ih, List.filter_cons_of_neg dropped]

theorem pickedAt_filter (p : α → Bool) (members : List α) :
    PickedAt members (members.filter p) (members.findIdxs p) where
  increasing := List.pairwise_findIdxs
  picks := map_findIdxs p members

/-- Each position of the list is one of the first part or one of the second. -/
structure DividedAt (members first second : List α) (firstAt secondAt : List Nat) : Prop where
  first : PickedAt members first firstAt
  second : PickedAt members second secondAt
  disjoint : ∀ i ∈ firstAt, i ∉ secondAt
  covering : ∀ i, i < members.length ↔ i ∈ firstAt ∨ i ∈ secondAt

theorem dividedAt_filter (p : α → Bool) (members : List α) :
    DividedAt members (members.filter p) (members.filter fun a => !p a)
      (members.findIdxs p) (members.findIdxs fun a => !p a) where
  first := pickedAt_filter p members
  second := pickedAt_filter _ members
  disjoint := by
    intro i first second
    obtain ⟨_, yes⟩ := List.mem_findIdxs_iff_exists_getElem_pos.mp first
    obtain ⟨_, no⟩ := List.mem_findIdxs_iff_exists_getElem_pos.mp second
    simp [yes] at no
  covering := by
    intro i
    simp only [List.mem_findIdxs_iff_exists_getElem_pos, ← exists_or]
    simp

theorem Declaration.isVirtual_iff {d : Declaration} :
    d.isVirtual = true ↔ ∀ f ∈ [Flag.accStatic, .accPrivate, .accConstructor], f ∉ d.flags := by
  rw [isVirtual, Bool.not_eq_true', ← Bool.not_eq_true, isDirect_iff]
  simp only [not_exists, not_and]

variable {declaration : α → Declaration} {members : List α}

theorem splitByDispatch_eq :
    splitByDispatch declaration members =
      (members.filter fun a => (declaration a).isDirect,
        members.filter fun a => (declaration a).isVirtual) :=
  List.partition_eq_filter_filter

theorem mem_splitByDispatch_fst {a : α} :
    a ∈ (splitByDispatch declaration members).1 ↔ a ∈ members ∧ (declaration a).isDirect = true := by
  rw [splitByDispatch_eq, List.mem_filter]

theorem mem_splitByDispatch_snd {a : α} :
    a ∈ (splitByDispatch declaration members).2 ↔
      a ∈ members ∧ (declaration a).isVirtual = true := by
  rw [splitByDispatch_eq, List.mem_filter]

theorem splitByDispatch_append (others : List α) :
    splitByDispatch declaration (members ++ others) =
      ((splitByDispatch declaration members).1 ++ (splitByDispatch declaration others).1,
        (splitByDispatch declaration members).2 ++ (splitByDispatch declaration others).2) := by
  simp only [splitByDispatch_eq, List.filter_append]

theorem splitByDispatch_of_direct (h : ∀ a ∈ members, (declaration a).isDirect = true) :
    splitByDispatch declaration members = (members, []) := by
  rw [splitByDispatch_eq, List.filter_eq_self.mpr h, List.filter_eq_nil_iff.mpr]
  intro a member
  simp [Declaration.isVirtual, h a member]

theorem splitByDispatch_of_virtual (h : ∀ a ∈ members, (declaration a).isVirtual = true) :
    splitByDispatch declaration members = ([], members) := by
  rw [splitByDispatch_eq, List.filter_eq_self.mpr h, List.filter_eq_nil_iff.mpr]
  intro a member
  simpa [Declaration.isVirtual] using h a member

/-- A split divides the positions of the members between its sides by the three flags, part by
part, and leaves each side as it is. -/
theorem splitByDispatch_divides (declaration : α → Declaration) (members : List α) :
    let split := splitByDispatch declaration
    let direct := (split members).1
    let virtual := (split members).2
    (∃ directAt virtualAt, DividedAt members direct virtual directAt virtualAt) ∧
    (∀ a, a ∈ direct ↔ a ∈ members ∧
      ∃ f ∈ [Flag.accStatic, .accPrivate, .accConstructor], f ∈ (declaration a).flags) ∧
    (∀ a, a ∈ virtual ↔ a ∈ members ∧
      ∀ f ∈ [Flag.accStatic, .accPrivate, .accConstructor], f ∉ (declaration a).flags) ∧
    (∀ others,
      split (members ++ others) = (direct ++ (split others).1, virtual ++ (split others).2)) ∧
    split direct = (direct, []) ∧ split virtual = ([], virtual) := by
  refine ⟨?_, ?_, ?_, splitByDispatch_append, ?_, ?_⟩
  · rw [splitByDispatch_eq]
    exact ⟨_, _, dividedAt_filter _ members⟩
  · intro a
    rw [mem_splitByDispatch_fst, Declaration.isDirect_iff]
  · intro a
    rw [mem_splitByDispatch_snd, Declaration.isVirtual_iff]
  · exact splitByDispatch_of_direct fun _ member => (mem_splitByDispatch_fst.mp member).2
  · exact splitByDispatch_of_virtual fun _ member => (mem_splitByDispatch_snd.mp member).2

/-- The name of a constructor makes no method direct, and a method listed twice is kept twice. -/
theorem splitByDispatch_divides_repeated :
    let unflagged : Method := ⟨⟨0x80000001⟩, "<init>", ⟨"V"⟩, []⟩
    let flagged : Method := ⟨⟨0x90000⟩, "build", ⟨"V"⟩, []⟩
    let split := splitByDispatch Method.declaration
    unflagged ∈ (split [unflagged, flagged, unflagged]).2 ∧
      flagged ∈ (split [unflagged, flagged, unflagged]).1 ∧
      split ([unflagged, flagged] ++ [unflagged]) = ([flagged], [unflagged, unflagged]) := by
  intro unflagged flagged split
  obtain ⟨-, direct, virtual, -⟩ :=
    splitByDispatch_divides Method.declaration [unflagged, flagged, unflagged]
  obtain ⟨-, -, -, append, -⟩ := splitByDispatch_divides Method.declaration [unflagged, flagged]
  have looked_up : unflagged ∈ (split [unflagged, flagged, unflagged]).2 :=
    (virtual unflagged).mpr ⟨by decide, by decide⟩
  have called : flagged ∈ (split [unflagged, flagged, unflagged]).1 :=
    (direct flagged).mpr ⟨by decide, by decide⟩
  exact ⟨looked_up, called, (append [unflagged]).trans (by decide)⟩

end DexMethod
