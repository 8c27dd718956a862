import DexMethod.Fault
import DexMethod.Proofs.Draft.Run

/-!
# Outcomes of method drafts

A run either describes a method or falls short in one of five ways, and then the first of them
is told to the caller and, if a blank value is at fault, written to the log. Main statement:
what is built after a run is the one or the other, exactly.
-/

namespace DexMethod

/-- What the caller and the log get to see, in words. -/
def Logged.shown {α : Type} (site : Site) (built : Logged (Except Refusal α)) :
    Except Fault α × List (Level × String) :=
  (built.value.mapError (Refusal.fault site), built.log.map fun e => (e.level, e.message))

/-- A refused list of parameters has a first one without a type, and that is the one named. -/
theorem Draft.checkParameterTypes_eq_error {parameters : List Parameter} {refusal : Refusal}
    (h : Draft.checkParameterTypes (parameters.map Parameter.type) = .error refusal) :
    ∃ i p, refusal = .blank (.parameterType i) ∧ parameters[i]? = some p ∧ p.type.text = "" ∧
      ∀ (j : Nat) (q : Parameter), parameters[j]? = some q → q.type.text = "" → i ≤ j := by
  unfold Draft.checkParameterTypes at h
  split at h
  · rename_i i found
    cases h
    obtain ⟨bound, empty, before⟩ := List.findIdx?_eq_some_iff_getElem.mp found
    rw [List.length_map] at bound
    refine ⟨i, parameters[i], rfl, List.getElem?_eq_getElem bound, ?_, ?_⟩
    · simpa [Descriptor.isEmpty] using empty
    · intro j q hq hempty
      by_contra less
      have hj : j < i := Nat.lt_of_not_le less
      have value : parameters[j] = q := by
        rw [List.getElem?_eq_getElem (by omega)] at hq
        exact Option.some.inj hq
      apply before j hj
      simp [Descriptor.isEmpty, value, hempty]
  · cases h

namespace MethodDraft
open MethodStep (sinceRestart last?)

/-- The steps give all that a method needs, and the method is what they give. -/
structure Describes (given : List MethodStep) (m : Method) : Prop where
  name : last? MethodStep.name? given = some m.name
  name_ne : m.name ≠ ""
  returnType : last? MethodStep.returnType? given = some m.returnType
  returnType_ne : m.returnType.text ≠ ""
  parameters : m.parameters = given.filterMap MethodStep.parameter?
  types_ne : ∀ p ∈ m.parameters, p.type.text ≠ ""
  flags : m.flags = (last? MethodStep.flags? given).getD ∅

/-- The ways in which steps fall short of a method, numbered in the order in which they count,
with what the caller is told and what is logged. -/
inductive Shortcoming (given : List MethodStep) (site : Site) :
    Nat → Fault → List (Level × String) → Prop
  | noName : (∀ s ∈ given, s.name? = none) →
      Shortcoming given site 0 (.missing "method name") []
  | noReturnType : (∀ s ∈ given, s.returnType? = none) →
      Shortcoming given site 1 (.missing "return type") []
  | emptyName : last? MethodStep.name? given = some "" →
      Shortcoming given site 2 (.malformed "Method name is empty" site)
        [(.debug, "Rejecting method with an empty name")]
  | emptyReturnType {name} : last? MethodStep.name? given = some name →
      last? MethodStep.returnType? given = some ⟨""⟩ →
      Shortcoming given site 3
        (.malformed ("Method " ++ name ++ " has an empty return type descriptor") site)
        [(.debug, "Rejecting method " ++ name ++ " with an empty return type")]
  | emptyParameter {i p} : (given.filterMap MethodStep.parameter?)[i]? = some p →
      p.type.text = "" →
      Shortcoming given site (i + 4)
        (.malformed ("Parameter " ++ toString i ++ " has an empty type descriptor") site)
        [(.debug, "Rejecting parameter " ++ toString i ++ " with an empty type descriptor")]

/-- The shortcoming that counts before all others, which for parameters is the one with the
smallest index. -/
def FirstShortcoming (given : List MethodStep) (site : Site) (fault : Fault)
    (lines : List (Level × String)) : Prop :=
  ∃ k, Shortcoming given site k fault lines ∧
    ∀ k' fault' lines', Shortcoming given site k' fault' lines' → k ≤ k'

variable {given : List MethodStep} {site : Site}

theorem Describes.unique {m n : Method} (hm : Describes given m) (hn : Describes given n) :
    m = n := by
  have hname : m.name = n.name := Option.some.inj (hm.name.symm.trans hn.name)
  have htype : m.returnType = n.returnType :=
    Option.some.inj (hm.returnType.symm.trans hn.returnType)
  have hparameters : m.parameters = n.parameters := hm.parameters.trans hn.parameters.symm
  have hflags : m.flags = n.flags := hm.flags.trans hn.flags.symm
  cases m
  cases n
  cases hname
  cases htype
  cases hparameters
  cases hflags
  rfl

theorem Shortcoming.unique {k : Nat} {f f' : Fault} {l l' : List (Level × String)}
    (h : Shortcoming given site k f l) (h' : Shortcoming given site k f' l') :
    f = f' ∧ l = l' := by
  cases h with
  | noName => cases h'; exact ⟨rfl, rfl⟩
  | noReturnType => cases h'; exact ⟨rfl, rfl⟩
  | emptyName => cases h'; exact ⟨rfl, rfl⟩
  | emptyReturnType hname =>
      cases h' with
      | emptyReturnType hname' =>
          cases Option.some.inj (hname.symm.trans hname')
          exact ⟨rfl, rfl⟩
  | emptyParameter => cases h'; exact ⟨rfl, rfl⟩

theorem FirstShortcoming.unique {f f' : Fault} {l l' : List (Level × String)}
    (h : FirstShortcoming given site f l) (h' : FirstShortcoming given site f' l') :
    f = f' ∧ l = l' := by
  obtain ⟨k, hk, least⟩ := h
  obtain ⟨k', hk', least'⟩ := h'
  have same : k = k' := Nat.le_antisymm (least _ _ _ hk') (least' _ _ _ hk)
  subst same
  exact hk.unique hk'

/-- What rules a shortcoming out also raises the least number that one can have. -/
theorem Shortcoming.one_le {k : Nat} {f : Fault} {l : List (Level × String)}
    (short : Shortcoming given site k f l) {name : String}
    (hname : last? MethodStep.name? given = some name) : 1 ≤ k := by
  cases short with
  | noName none_given =>
      rw [MethodStep.last?_eq_none_iff.mpr none_given] at hname
      cases hname
  | _ => omega

theorem Shortcoming.two_le {k : Nat} {f : Fault} {l : List (Level × String)}
    (short : Shortcoming given site k f l) {name : String} {type : Descriptor}
    (hname : last? MethodStep.name? given = some name)
    (htype : last? MethodStep.returnType? given = some type) : 2 ≤ k := by
  have := short.one_le hname
  cases short with
  | noReturnType none_given =>
      rw [MethodStep.last?_eq_none_iff.mpr none_given] at htype
      cases htype
  | _ => omega

theorem Shortcoming.three_le {k : Nat} {f : Fault} {l : List (Level × String)}
    (short : Shortcoming given site k f l) {name : String} {type : Descriptor}
    (hname : last? MethodStep.name? given = some name) (hne : name ≠ "")
    (htype : last? MethodStep.returnType? given = some type) : 3 ≤ k := by
  have := short.two_le hname htype
  cases short with
  | emptyName hempty => exact absurd (Option.some.inj (hname.symm.trans hempty)) hne
  | _ => omega

theorem Shortcoming.four_le {k : Nat} {f : Fault} {l : List (Level × String)}
    (short : Shortcoming given site k f l) {name : String} {type : Descriptor}
    (hname : last? MethodStep.name? given = some name) (hne : name ≠ "")
    (htype : last? MethodStep.returnType? given = some type) (hte : type.text ≠ "") : 4 ≤ k := by
  have := short.three_le hname hne htype
  cases short with
  | emptyReturnType _ hempty =>
      have same : type = ⟨""⟩ := Option.some.inj (htype.symm.trans hempty)
      exact absurd (congrArg Descriptor.text same) hte
  | _ => omega

theorem Describes.not_shortcoming {m : Method} (h : Describes given m) {k : Nat} {f : Fault}
    {l : List (Level × String)} : ¬ Shortcoming given site k f l := by
  intro short
  have := short.four_le h.name h.name_ne h.returnType h.returnType_ne
  cases short with
  | emptyParameter hp hempty =>
      rw [← h.parameters] at hp
      exact h.types_ne _ (List.mem_of_getElem? hp) hempty
  | _ => omega

/-- Each result that a run can have is licensed by what the steps give. -/
def Licensed (given : List MethodStep) (site : Site) :
    Except Fault Method × List (Level × String) → Prop
  | (.ok m, lines) => Describes given m ∧ lines = []
  | (.error fault, lines) => FirstShortcoming given site fault lines

theorem Licensed.unique {r r' : Except Fault Method × List (Level × String)}
    (h : Licensed given site r) (h' : Licensed given site r') : r = r' := by
  obtain ⟨outcome, lines⟩ := r
  obtain ⟨outcome', lines'⟩ := r'
  cases outcome with
  | ok m =>
      obtain ⟨described, rfl⟩ := h
      cases outcome' with
      | ok m' =>
          obtain ⟨described', rfl⟩ := h'
          rw [described.unique described']
      | error fault' =>
          obtain ⟨k, short, -⟩ := h'
          exact absurd short described.not_shortcoming
  | error fault =>
      cases outcome' with
      | ok m' =>
          obtain ⟨k, short, -⟩ := h
          exact absurd short h'.1.not_shortcoming
      | error fault' =>
          obtain ⟨rfl, rfl⟩ := FirstShortcoming.unique h h'
          rfl

theorem licensed_noName (h : last? MethodStep.name? given = none) :
    Licensed given site ((read given).build.shown site) := by
  have outcome : (read given).build = ⟨.error (.missing .methodName), []⟩ := by
    simp only [build, finish, read, h, Draft.checkHeading, Draft.report, Refusal.events]
  rw [outcome]
  exact ⟨0, .noName (MethodStep.last?_eq_none_iff.mp h), fun _ _ _ _ => Nat.zero_le _⟩

theorem licensed_noReturnType {name : String}
    (hname : last? MethodStep.name? given = some name)
    (h : last? MethodStep.returnType? given = none) :
    Licensed given site ((read given).build.shown site) := by
  have outcome : (read given).build = ⟨.error (.missing .returnType), []⟩ := by
    simp only [build, finish, read, hname, h, Draft.checkHeading, Draft.report, Refusal.events]
  rw [outcome]
  exact ⟨1, .noReturnType (MethodStep.last?_eq_none_iff.mp h), fun _ _ _ other =>
    other.one_le hname⟩

theorem licensed_emptyName {type : Descriptor}
    (hname : last? MethodStep.name? given = some "")
    (htype : last? MethodStep.returnType? given = some type) :
    Licensed given site ((read given).build.shown site) := by
  have outcome : (read given).build = ⟨.error (.blank .methodName), [.rejected .methodName]⟩ := by
    simp only [build, finish, read, hname, htype, Draft.checkHeading, Draft.report, Refusal.events]
    rfl
  rw [outcome]
  exact ⟨2, .emptyName hname, fun _ _ _ other => other.two_le hname htype⟩

theorem licensed_emptyReturnType {name : String}
    (hname : last? MethodStep.name? given = some name) (hne : name ≠ "")
    (htype : last? MethodStep.returnType? given = some ⟨""⟩) :
    Licensed given site ((read given).build.shown site) := by
  have hfull : name.isEmpty = false := by simpa using hne
  have outcome : (read given).build =
      ⟨.error (.blank (.returnType name)), [.rejected (.returnType name)]⟩ := by
    simp only [build, finish, read, hname, htype, Draft.checkHeading, Draft.report, Refusal.events,
      hfull]
    rfl
  rw [outcome]
  exact ⟨3, .emptyReturnType hname htype, fun _ _ _ other => other.three_le hname hne htype⟩

theorem licensed_parameters {name : String} {type : Descriptor}
    (hname : last? MethodStep.name? given = some name) (hne : name ≠ "")
    (htype : last? MethodStep.returnType? given = some type) (hte : type.text ≠ "") :
    Licensed given site ((read given).build.shown site) := by
  have heading : Draft.checkHeading (read given).name? (read given).returnType? =
      .ok (name, type) :=
    Draft.checkHeading_eq_ok_iff.mpr
      ⟨hname, htype, by simpa using hne, by simpa [Descriptor.isEmpty] using hte⟩
  cases checked : Draft.checkParameterTypes ((read given).parameters.map Parameter.type) with
  | error refusal =>
      obtain ⟨i, p, rfl, hp, hempty, least⟩ := Draft.checkParameterTypes_eq_error checked
      have outcome : (read given).build =
          ⟨.error (.blank (.parameterType i)), [.rejected (.parameterType i)]⟩ := by
        simp only [build, finish, heading, checked, Draft.report, Refusal.events]
      rw [outcome]
      refine ⟨i + 4, .emptyParameter hp hempty, ?_⟩
      intro k fault lines other
      have := other.four_le hname hne htype hte
      cases other with
      | emptyParameter hq hempty' =>
          have := least _ _ hq hempty'
          omega
      | _ => omega
  | ok done =>
      have outcome : (read given).build =
          ⟨.ok ⟨(read given).flags, name, type, (read given).parameters⟩, []⟩ := by
        simp only [build, finish, heading, checked, Draft.report]
      have filled := Draft.checkParameterTypes_eq_ok_iff.mp checked
      rw [outcome]
      refine ⟨⟨hname, hne, htype, hte, rfl, ?_, rfl⟩, rfl⟩
      intro p member
      have := filled p.type (List.mem_map_of_mem member)
      simpa [Descriptor.isEmpty] using this

theorem licensed_build (given : List MethodStep) (site : Site) :
    Licensed given site ((read given).build.shown site) := by
  cases hname : last? MethodStep.name? given with
  | none => exact licensed_noName hname
  | some name =>
      cases htype : last? MethodStep.returnType? given with
      | none => exact licensed_noReturnType hname htype
      | some type =>
          by_cases hne : name = ""
          · subst hne
            exact licensed_emptyName hname htype
          · by_cases hte : type.text = ""
            · have blank : type = ⟨""⟩ := Descriptor.ext hte
              subst blank
              exact licensed_emptyReturnType hname hne htype
            · exact licensed_parameters hname hne htype hte

theorem build_shown_eq_iff {r : Except Fault Method × List (Level × String)} :
    (read given).build.shown site = r ↔ Licensed given site r := by
  have licensed := licensed_build given site
  constructor
  · intro same
    rw [← same]
    exact licensed
  · exact licensed.unique

theorem describes_of_build {steps : List MethodStep} {m : Method}
    (h : (ofSteps steps).build.value = .ok m) : Describes (sinceRestart steps) m := by
  have licensed := licensed_build (sinceRestart steps) ⟨"", 0⟩
  rw [← ofSteps_eq_read, Logged.shown, h] at licensed
  exact licensed.1

/-- A run gives a method exactly if the steps behind its last restart describe one, and a fault
exactly if it is the first shortcoming of those steps. -/
theorem build_shown_iff (steps : List MethodStep) (site : Site) :
    (∀ m lines, (ofSteps steps).build.shown site = (.ok m, lines) ↔
      Describes (sinceRestart steps) m ∧ lines = []) ∧
    (∀ fault lines, (ofSteps steps).build.shown site = (.error fault, lines) ↔
      FirstShortcoming (sinceRestart steps) site fault lines) := by
  rw [ofSteps_eq_read]
  constructor
  · intro m lines
    exact build_shown_eq_iff
  · intro fault lines
    exact build_shown_eq_iff

end MethodDraft

end DexMethod
