import DexMethod.Proofs.Draft.Erasure
import DexMethod.Proofs.Draft.Outcome
import DexMethod.Proofs.Prototype.Shorty

/-!
# Shorties of what drafts give

A shorty passes over empty types, and then its letters no longer stand where the types do. A draft
is not finished with an empty type, so what it gives has a letter for each type in its place. For
drafts of references this follows from drafts of methods, since each of their runs is one of those
with the names of the parameters left out.
-/

namespace DexMethod

namespace ReferenceStep

/-- The same step of a method draft, with no name for a parameter. -/
def embed : ReferenceStep → MethodStep
  | .restart => .restart
  | .name value => .name value
  | .returnType value => .returnType value
  | .parameterType value => .parameter ⟨value, none⟩

/-- The steps behind the last restart. -/
def sinceRestart (steps : List ReferenceStep) : List ReferenceStep :=
  steps.rtakeWhile (· ≠ .restart)

def parameterType? : ReferenceStep → Option Descriptor
  | .parameterType value => some value
  | _ => none

theorem erase?_embed (s : ReferenceStep) : s.embed.erase? = some s := by
  cases s <;> rfl

theorem embed_eq_restart_iff {s : ReferenceStep} : s.embed = .restart ↔ s = .restart := by
  cases s <;> simp [embed]

theorem erase_map_embed (steps : List ReferenceStep) :
    MethodStep.erase (steps.map embed) = steps := by
  simp only [MethodStep.erase, List.filterMap_map, Function.comp_def, erase?_embed,
    List.filterMap_some]

theorem sinceRestart_map_embed (steps : List ReferenceStep) :
    MethodStep.sinceRestart (steps.map embed) = (sinceRestart steps).map embed := by
  simp only [MethodStep.sinceRestart, sinceRestart, List.rtakeWhile, ← List.map_reverse,
    List.takeWhile_map, Function.comp_def, ne_eq, embed_eq_restart_iff]

theorem parameterTypes_map_embed (steps : List ReferenceStep) :
    ((steps.map embed).filterMap MethodStep.parameter?).map Parameter.type =
      steps.filterMap parameterType? := by
  have same (s : ReferenceStep) :
      (s.embed.parameter?).map Parameter.type = s.parameterType? := by
    cases s <;> rfl
  simp only [List.filterMap_map, List.map_filterMap, Function.comp_def, same]

theorem length_parameters_map_embed (steps : List ReferenceStep) :
    ((steps.map embed).filterMap MethodStep.parameter?).length =
      (steps.filterMap parameterType?).length := by
  rw [← parameterTypes_map_embed, List.length_map]

end ReferenceStep

namespace MethodDraft

variable {given : List MethodStep} {m : Method}

theorem Describes.types_filled (h : Describes given m) :
    ∀ d ∈ m.reference.types, d.isEmpty = false := by
  intro d member
  have text : d.text ≠ "" := by
    rcases List.mem_cons.mp member with rfl | parameter
    · exact h.returnType_ne
    · obtain ⟨p, inside, rfl⟩ := List.mem_map.mp parameter
      exact h.types_ne p inside
  simpa [Descriptor.isEmpty] using text

theorem Describes.aligned (h : Describes given m) : m.reference.Aligned :=
  Prototype.aligned_of_filled h.types_filled

theorem Describes.length_shorty (h : Describes given m) :
    m.reference.shorty.length = 1 + (given.filterMap MethodStep.parameter?).length := by
  have parameters : m.reference.parameterTypes =
      (given.filterMap MethodStep.parameter?).map Parameter.type :=
    congrArg (List.map Parameter.type) h.parameters
  rw [h.aligned.length, parameters, List.length_map]

end MethodDraft

/-- A reference is what a call site sees of the method that the same steps give. -/
theorem ReferenceDraft.exists_method_of_build {steps : List ReferenceStep} {r : Reference}
    (h : (ofSteps steps).build.value = .ok r) :
    ∃ m, (MethodDraft.ofSteps (steps.map ReferenceStep.embed)).build.value = .ok m ∧
      r = m.reference := by
  have simulated := MethodDraft.build_erase_ofSteps (steps.map ReferenceStep.embed)
  rw [ReferenceStep.erase_map_embed] at simulated
  rw [simulated] at h
  cases built : (MethodDraft.ofSteps (steps.map ReferenceStep.embed)).build.value with
  | error cause =>
      rw [built] at h
      cases h
  | ok m =>
      rw [built] at h
      cases h
      exact ⟨m, rfl, rfl⟩

namespace Reference

/-- A shorty has the letters of the types that are not empty; what a run of either draft gives has
no other types, and as many parameters as there are behind the last restart. For a method this is
told both of its declaration, which has the types of the method itself, and of the reference that a
call site sees. -/
theorem shorty_aligned_of_build :
    (∀ r : Reference,
      r.shorty.toList.map some = r.filled.map Descriptor.shortyLetter? ∧
      r.shorty.length = r.filled.length ∧
      (r.shorty.length = 1 + r.parameterTypes.length ↔ ∀ d ∈ r.types, d.isEmpty = false)) ∧
    (∀ (steps : List MethodStep) (m : Method), (MethodDraft.ofSteps steps).build.value = .ok m →
      (m.declaration.toPrototype = ⟨m.returnType, m.parameters.map Parameter.type⟩ ∧
        m.declaration.toReference.Aligned ∧ m.declaration.shorty.length =
          1 + ((MethodStep.sinceRestart steps).filterMap MethodStep.parameter?).length) ∧
      m.reference.Aligned ∧ m.reference.shorty.length =
        1 + ((MethodStep.sinceRestart steps).filterMap MethodStep.parameter?).length) ∧
    (∀ (steps : List ReferenceStep) (r : Reference),
      (ReferenceDraft.ofSteps steps).build.value = .ok r →
      r.Aligned ∧ r.shorty.length =
        1 + ((ReferenceStep.sinceRestart steps).filterMap
          ReferenceStep.parameterType?).length) := by
  refine ⟨?_, ?_, ?_⟩
  · intro r
    exact ⟨r.map_some_shorty, r.length_shorty, Prototype.length_shorty_eq_iff⟩
  · intro steps m built
    have described := MethodDraft.describes_of_build built
    rw [m.declaration_toReference]
    exact ⟨⟨rfl, described.aligned, described.length_shorty⟩, described.aligned,
      described.length_shorty⟩
  · intro steps r built
    obtain ⟨m, also, rfl⟩ := ReferenceDraft.exists_method_of_build built
    have described := MethodDraft.describes_of_build also
    refine ⟨described.aligned, ?_⟩
    rw [described.length_shorty, ReferenceStep.sinceRestart_map_embed,
      ReferenceStep.length_parameters_map_embed]

/-- The restart drops the empty type, and a letter of two bytes is one letter. -/
theorem shorty_aligned_of_build_restarted :
    let m : Method := ⟨⟨8⟩, "f", ⟨"é"⟩, [⟨⟨"[J"⟩, none⟩, ⟨⟨"J"⟩, some ""⟩]⟩
    let r : Reference := ⟨⟨⟨""⟩, [⟨"ab"⟩, ⟨""⟩, ⟨"é"⟩]⟩, ""⟩
    let steps : List MethodStep := [.parameter ⟨⟨""⟩, none⟩, .restart, .name "f", .flags ⟨8⟩,
      .returnType ⟨"é"⟩, .parameter ⟨⟨"[J"⟩, none⟩, .parameter ⟨⟨"J"⟩, some ""⟩]
    let calls : List ReferenceStep := [.parameterType ⟨""⟩, .restart, .parameterType ⟨"[J"⟩,
      .returnType ⟨"é"⟩, .name "f", .parameterType ⟨"J"⟩]
    (MethodDraft.ofSteps steps).build.value = .ok m ∧
      (ReferenceDraft.ofSteps calls).build.value = .ok m.reference ∧
      m.declaration.shorty.length = 3 ∧ m.declaration.shorty.toList[0]? = some 'é' ∧
      m.declaration.shorty.toList[1]? = some 'L' ∧ m.declaration.shorty.toList[2]? = some 'J' ∧
      m.reference.shorty.length = 3 ∧ m.reference.shorty.toList[0]? = some 'é' ∧
      m.reference.shorty.toList[1]? = some 'L' ∧ m.reference.shorty.toList[2]? = some 'J' ∧
      r.shorty.length = 2 ∧ r.shorty.length ≠ 1 + r.parameterTypes.length := by
  intro m r steps calls
  obtain ⟨letters, method, reference⟩ := shorty_aligned_of_build
  have built : (MethodDraft.ofSteps steps).build.value = .ok m := by rfl
  have also : (ReferenceDraft.ofSteps calls).build.value = .ok m.reference := by rfl
  obtain ⟨⟨-, declared, length_declared⟩, aligned, -⟩ := method steps m built
  obtain ⟨-, length⟩ := reference calls m.reference also
  obtain ⟨-, count, filled⟩ := letters r
  have first_declared := declared.first.trans (show _ = some 'é' by decide)
  have first := aligned.first.trans (show _ = some 'é' by decide)
  refine ⟨built, also, length_declared, first_declared, declared.later 0, declared.later 1, length,
    first, aligned.later 0, aligned.later 1, count, ?_⟩
  intro whole
  exact absurd (filled.mp whole) (by decide)

end Reference

end DexMethod
