import DexMethod.Declaration.Source
import DexMethod.Proofs.Draft.Outcome

/-!
# Names of parameters that drafts give

A parameter without a recorded name goes by a placeholder, which is never empty. A recorded name
is written as it is, and a draft looks at the types of its parameters but not at their names. So a
draft gives a method with a nameless parameter exactly if a step records the empty name.
-/

namespace DexMethod

namespace Parameter

/-- The text of the parameter is the name of its type, a space, and a name that is not empty. -/
def Named (p : Parameter) : Prop :=
  ∃ name, name ≠ "" ∧ p.source = p.type.sourceName ++ " " ++ name

theorem placeholder_ne_empty (d : Descriptor) : d.placeholder ≠ "" := by
  unfold Descriptor.placeholder
  split
  · decide
  · split
    · decide
    · decide

theorem label_eq_empty_iff {p : Parameter} : p.label = "" ↔ p.name = some "" := by
  unfold label
  cases p.name with
  | none => exact iff_of_false (placeholder_ne_empty p.type) (by simp)
  | some name => simp

theorem named_iff_label {p : Parameter} : p.Named ↔ p.label ≠ "" := by
  constructor
  · rintro ⟨name, filled, text⟩
    have same : p.label = name := (String.append_right_inj _).mp text
    rwa [same]
  · intro filled
    exact ⟨p.label, filled, rfl⟩

theorem named_iff {p : Parameter} : p.Named ↔ p.name ≠ some "" :=
  named_iff_label.trans (not_congr label_eq_empty_iff)

end Parameter

namespace MethodDraft
open MethodStep (sinceRestart)

theorem Describes.named_iff {given : List MethodStep} {m : Method} (h : Describes given m) :
    (∀ p ∈ m.parameters, p.Named) ↔ ∀ type, .parameter ⟨type, some ""⟩ ∉ given := by
  simp only [h.parameters, List.mem_filterMap, Parameter.named_iff]
  constructor
  · intro all type member
    exact all ⟨type, some ""⟩ ⟨_, member, rfl⟩ rfl
  · rintro unrecorded p ⟨step, member, value⟩ empty
    cases step with
    | parameter q =>
        cases Option.some.inj value
        obtain ⟨type, name⟩ := p
        cases empty
        exact unrecorded type member
    | _ => cases value

/-- Each parameter that a run gives has its type, a space and its recorded name or a placeholder
for its text; it is without a name exactly if the empty name was recorded. -/
theorem named_of_build {steps : List MethodStep} {m : Method}
    (h : (ofSteps steps).build.value = .ok m) :
    (∃ front, m.source = front ++ "(" ++ ", ".intercalate (m.parameters.map Parameter.source) ++
      ")") ∧
    (∀ p ∈ m.parameters, (p.Named ↔ p.name ≠ some "") ∧
      p.source = p.type.sourceName ++ " " ++ p.name.getD p.type.placeholder) ∧
    ((∀ p ∈ m.parameters, p.Named) ↔
      ∀ type, .parameter ⟨type, some ""⟩ ∉ sinceRestart steps) := by
  refine ⟨⟨_, rfl⟩, ?_, (describes_of_build h).named_iff⟩
  intro p _
  exact ⟨p.named_iff, rfl⟩

/-- The empty name in front of the restart leaves no trace. -/
theorem named_of_build_restarted :
    let steps : List MethodStep := [.parameter ⟨⟨"I"⟩, some ""⟩, .restart, .name "f",
      .returnType ⟨"V"⟩, .parameter ⟨⟨"[I"⟩, none⟩, .parameter ⟨⟨"é"⟩, some " "⟩]
    let m : Method := ⟨∅, "f", ⟨"V"⟩, [⟨⟨"[I"⟩, none⟩, ⟨⟨"é"⟩, some " "⟩]⟩
    (ofSteps steps).build.value = .ok m ∧ ∀ p ∈ m.parameters, p.Named := by
  intro steps m
  have built : (ofSteps steps).build.value = .ok m := by rfl
  obtain ⟨-, each, -⟩ := named_of_build built
  refine ⟨built, ?_⟩
  intro p member
  have recorded : ∀ q ∈ m.parameters, q.name ≠ some "" := by decide
  exact (each p member).1.mpr (recorded p member)

/-- A draft takes a parameter with the empty name, and nothing stands behind its type. -/
theorem not_named_of_build :
    let steps : List MethodStep := [.name "f", .returnType ⟨"V"⟩, .parameter ⟨⟨"I"⟩, some ""⟩]
    let m : Method := ⟨∅, "f", ⟨"V"⟩, [⟨⟨"I"⟩, some ""⟩]⟩
    (ofSteps steps).build.value = .ok m ∧ m.source = "void f(int )" ∧
      ¬ ∀ p ∈ m.parameters, p.Named := by
  refine ⟨rfl, by decide, ?_⟩
  intro all
  exact Parameter.named_iff.mp (all _ List.mem_cons_self) rfl

end MethodDraft

end DexMethod
