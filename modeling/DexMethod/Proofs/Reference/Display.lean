import DexMethod.Proofs.Descriptor.Delimited
import DexMethod.Reference

/-!
# Reading references back

The line that shows a reference has no separator between the parameter types. It is still read
in one way only, since each type shows where it ends.
-/

namespace DexMethod

namespace Reference

/-- The name ends at the first parenthesis, and the parameter types end themselves. The return
type comes last and may be anything. -/
structure Delimited (r : Reference) : Prop where
  name : '(' ∉ r.name.toList
  types : ∀ d ∈ r.parameterTypes, d.Closed

theorem toList_display (r : Reference) :
    r.display.toList =
      r.name.toList ++ '(' :: (r.parameterTypes.flatMap Descriptor.chars ++
        ')' :: r.returnType.chars) := by
  have types : (String.join (r.parameterTypes.map Descriptor.text)).toList =
      r.parameterTypes.flatMap Descriptor.chars := by
    rw [String.toList_join, List.flatMap_map]
    rfl
  simp only [display, String.toList_append, types, List.append_assoc]
  rfl

theorem display_eq_iff {r s : Reference} (hr : r.Delimited) (hs : s.Delimited) :
    r.display = s.display ↔ r = s := by
  constructor
  · intro h
    have shown := congrArg String.toList h
    rw [toList_display, toList_display] at shown
    obtain ⟨names, rest⟩ := append_separator_inj hr.name hs.name shown
    obtain ⟨types, returned⟩ := Descriptor.flatMap_chars_inj hr.types hs.types rest
    have name : r.name = s.name := String.toList_inj.mp names
    have returnType : r.returnType = s.returnType := Descriptor.chars_inj.mp returned
    obtain ⟨⟨rt, rp⟩, rn⟩ := r
    obtain ⟨⟨st, sp⟩, sn⟩ := s
    cases name
    cases types
    cases returnType
    rfl
  · exact congrArg display

/-- The parentheses of a class name and of a return type do not mislead. -/
theorem display_ne_nested_parentheses :
    let r : Reference := ⟨⟨⟨")I"⟩, [⟨"[La)(b;"⟩, ⟨"I"⟩]⟩, "f"⟩
    let s : Reference := ⟨⟨⟨"I)I"⟩, [⟨"[La)(b;"⟩]⟩, "f"⟩
    r.Delimited ∧ s.Delimited ∧ r.display ≠ s.display := by
  intro r s
  have hr : r.Delimited := ⟨by decide, by decide⟩
  have hs : s.Delimited := ⟨by decide, by decide⟩
  exact ⟨hr, hs, fun same => absurd ((display_eq_iff hr hs).mp same) (by decide)⟩

end Reference

end DexMethod
