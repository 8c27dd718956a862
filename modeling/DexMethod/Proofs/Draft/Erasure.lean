import DexMethod.Draft.Method
import DexMethod.Draft.Reference

/-!
# Method drafts as reference drafts

Without flags and parameter names a method draft is a reference draft, and each step of the one
is a step of the other or none. So the two are refused for the same causes along every run, and
a finished method has the finished reference.
-/

namespace DexMethod

namespace MethodStep

/-- The step of a reference draft that goes along; setting flags has none. -/
def erase? : MethodStep → Option ReferenceStep
  | .restart => some .restart
  | .flags _ => none
  | .name value => some (.name value)
  | .returnType value => some (.returnType value)
  | .parameter value => some (.parameterType value.type)

def erase (steps : List MethodStep) : List ReferenceStep := steps.filterMap erase?

end MethodStep

namespace MethodDraft

/-- The draft without flags and parameter names. -/
def erase (d : MethodDraft) : ReferenceDraft where
  name? := d.name?
  returnType? := d.returnType?
  parameterTypes := d.parameters.map Parameter.type

theorem erase_step (d : MethodDraft) {s : MethodStep} {t : ReferenceStep}
    (h : s.erase? = some t) : (d.step s).erase = d.erase.step t := by
  cases s with
  | restart => cases h; rfl
  | flags value => cases h
  | name value => cases h; rfl
  | returnType value => cases h; rfl
  | parameter value =>
      cases h
      simp only [step, erase, ReferenceDraft.step, List.map_append, List.map_cons, List.map_nil]

theorem erase_step_none (d : MethodDraft) {s : MethodStep} (h : s.erase? = none) :
    (d.step s).erase = d.erase := by
  cases s with
  | flags value => rfl
  | _ => cases h

theorem erase_foldl (steps : List MethodStep) (d : MethodDraft) :
    (steps.foldl step d).erase = (MethodStep.erase steps).foldl ReferenceDraft.step d.erase := by
  induction steps generalizing d with
  | nil => rfl
  | cons s steps ih =>
      rw [List.foldl_cons, ih]
      cases h : s.erase? with
      | none =>
          have dropped : MethodStep.erase (s :: steps) = MethodStep.erase steps :=
            List.filterMap_cons_none h
          rw [erase_step_none d h, dropped]
      | some t =>
          have kept : MethodStep.erase (s :: steps) = t :: MethodStep.erase steps :=
            List.filterMap_cons_some h
          rw [erase_step d h, kept, List.foldl_cons]

theorem erase_ofSteps (steps : List MethodStep) :
    (ofSteps steps).erase = ReferenceDraft.ofSteps (MethodStep.erase steps) :=
  erase_foldl steps empty

/-- Both drafts pass or fail the same checks, in the same order. -/
theorem finish_erase (d : MethodDraft) : d.erase.finish = d.finish.map Method.reference := by
  simp only [finish, ReferenceDraft.finish, erase]
  cases Draft.checkHeading d.name? d.returnType? with
  | error refusal => rfl
  | ok heading =>
      cases Draft.checkParameterTypes (d.parameters.map Parameter.type) with
      | error refusal => rfl
      | ok done => rfl

theorem build_erase (d : MethodDraft) :
    d.erase.build = ⟨d.build.value.map Method.reference, d.build.log⟩ := by
  simp only [build, ReferenceDraft.build, finish_erase]
  cases d.finish with
  | error refusal => rfl
  | ok m => rfl

theorem build_erase_ofSteps (steps : List MethodStep) :
    (ReferenceDraft.ofSteps (MethodStep.erase steps)).build =
      ⟨(ofSteps steps).build.value.map Method.reference, (ofSteps steps).build.log⟩ := by
  rw [← erase_ofSteps, build_erase]

/-- A draft is finished if and only if the steps that are left after erasure finish one. -/
theorem isOk_build_erase (steps : List MethodStep) :
    (ReferenceDraft.ofSteps (MethodStep.erase steps)).build.value.isOk =
      (ofSteps steps).build.value.isOk := by
  rw [build_erase_ofSteps]
  cases (ofSteps steps).build.value with
  | error cause => rfl
  | ok m => rfl

/-- At every point of a run the two drafts are both finished or both refused for one cause, the
same is logged, and nothing that erasure drops has a say in it. -/
theorem build_take_erase (steps : List MethodStep) (n : Nat) :
    let method := (ofSteps (steps.take n)).build
    let reference := (ReferenceDraft.ofSteps (MethodStep.erase (steps.take n))).build
    ((∃ m, method.value = .ok m ∧ reference.value = .ok m.reference) ∨
      ∃ cause, method.value = .error cause ∧ reference.value = .error cause) ∧
    reference.log = method.log ∧
    ∀ other, MethodStep.erase other = MethodStep.erase (steps.take n) →
      (ofSteps other).build.value.isOk = method.value.isOk := by
  intro method reference
  have simulated : reference = ⟨method.value.map Method.reference, method.log⟩ :=
    build_erase_ofSteps (steps.take n)
  refine ⟨?_, ?_, ?_⟩
  · rw [simulated]
    cases method.value with
    | error cause => exact .inr ⟨cause, rfl, rfl⟩
    | ok m => exact .inl ⟨m, rfl, rfl⟩
  · rw [simulated]
  · intro other same
    calc
      (ofSteps other).build.value.isOk
          = (ReferenceDraft.ofSteps (MethodStep.erase other)).build.value.isOk :=
        (isOk_build_erase other).symm
      _ = reference.value.isOk := by rw [same]
      _ = method.value.isOk := isOk_build_erase (steps.take n)

/-- The method is finished without its flags and the name of its parameter as well. -/
theorem build_take_erase_renamed :
    let steps : List MethodStep := [.name "f", .flags ⟨8⟩, .returnType ⟨"V"⟩,
      .parameter ⟨⟨"I"⟩, some "x"⟩, .parameter ⟨⟨""⟩, none⟩]
    let other : List MethodStep := [.name "f", .returnType ⟨"V"⟩, .parameter ⟨⟨"I"⟩, none⟩]
    MethodStep.erase other = MethodStep.erase (steps.take 4) ∧
      (ofSteps other).build.value.isOk = (ofSteps (steps.take 4)).build.value.isOk ∧
      (ofSteps (steps.take 4)).build.value.isOk = true := by
  intro steps other
  exact ⟨rfl, (build_take_erase steps 4).2.2 other rfl, rfl⟩

end MethodDraft

end DexMethod
