import DexMethod.Draft.Method
import Mathlib.Data.List.DropRight

/-!
# Runs of method drafts

Where a run of steps leads is read off the steps behind its last restart, without a state: of
each value the last one given, and every parameter in order. The steps in front of that restart
leave no trace.
-/

namespace DexMethod

namespace MethodStep

/-- The steps behind the last restart. -/
def sinceRestart (steps : List MethodStep) : List MethodStep := steps.rtakeWhile (· ≠ .restart)

def flags? : MethodStep → Option Access.Word
  | .flags value => some value
  | _ => none

def name? : MethodStep → Option String
  | .name value => some value
  | _ => none

def returnType? : MethodStep → Option Descriptor
  | .returnType value => some value
  | _ => none

def parameter? : MethodStep → Option Parameter
  | .parameter value => some value
  | _ => none

/-- The value of one kind that the steps give last. -/
def last? {α : Type} (kind : MethodStep → Option α) (given : List MethodStep) : Option α :=
  (given.filterMap kind).getLast?

theorem last?_eq_none_iff {α : Type} {kind : MethodStep → Option α} {given : List MethodStep} :
    last? kind given = none ↔ ∀ s ∈ given, kind s = none := by
  rw [last?, List.getLast?_eq_none_iff, List.filterMap_eq_nil_iff]

theorem sinceRestart_restart (steps : List MethodStep) :
    sinceRestart (steps ++ [.restart]) = [] := by
  exact List.rtakeWhile_concat_neg _ _ _ (by decide)

theorem sinceRestart_concat (steps : List MethodStep) {s : MethodStep} (h : s ≠ .restart) :
    sinceRestart (steps ++ [s]) = sinceRestart steps ++ [s] := by
  exact List.rtakeWhile_concat_pos _ _ _ (decide_eq_true h)

end MethodStep

namespace MethodDraft
open MethodStep (sinceRestart last?)

/-- The draft with the last of each value and all the parameters among some steps. -/
def read (given : List MethodStep) : MethodDraft where
  flags := (last? MethodStep.flags? given).getD ∅
  name? := last? MethodStep.name? given
  returnType? := last? MethodStep.returnType? given
  parameters := given.filterMap MethodStep.parameter?

theorem read_concat (given : List MethodStep) {s : MethodStep} (h : s ≠ .restart) :
    read (given ++ [s]) = (read given).step s := by
  cases s with
  | restart => exact absurd rfl h
  | _ =>
      simp [read, step, last?, MethodStep.flags?, MethodStep.name?, MethodStep.returnType?,
        MethodStep.parameter?]

/-- One step keeps the draft and the steps behind the last restart together. -/
theorem read_sinceRestart_step (steps : List MethodStep) (s : MethodStep) :
    (read (sinceRestart steps)).step s = read (sinceRestart (steps ++ [s])) := by
  by_cases h : s = .restart
  · rw [h, MethodStep.sinceRestart_restart]
    rfl
  · rw [MethodStep.sinceRestart_concat steps h, read_concat _ h]

theorem ofSteps_eq_read (steps : List MethodStep) : ofSteps steps = read (sinceRestart steps) := by
  -- from the end of the run, since a restart cuts off what came before
  induction steps using List.reverseRecOn with
  | nil => rfl
  | append_singleton steps s ih =>
      rw [← read_sinceRestart_step, ← ih, ofSteps, List.foldl_concat]
      rfl

end MethodDraft

end DexMethod
