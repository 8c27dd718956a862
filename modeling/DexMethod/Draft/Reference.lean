import DexMethod.Draft.Check
import DexMethod.Reference

/-!
# Drafts of method references

A draft collects what is known of a reference, in any order. A value given again replaces the
one before it; parameter types add up.
-/

namespace DexMethod

/-- A method reference that is not yet complete. -/
structure ReferenceDraft where
  name? : Option String := none
  returnType? : Option Descriptor := none
  parameterTypes : List Descriptor := []
  deriving DecidableEq

/-- One step in the making of a method reference. -/
inductive ReferenceStep where
  /-- Starts over with an empty draft. -/
  | restart
  | name (value : String)
  | returnType (value : Descriptor)
  | parameterType (value : Descriptor)
  deriving DecidableEq

namespace ReferenceDraft

def empty : ReferenceDraft := {}

def step (d : ReferenceDraft) : ReferenceStep → ReferenceDraft
  | .restart => empty
  | .name value => { d with name? := some value }
  | .returnType value => { d with returnType? := some value }
  | .parameterType value => { d with parameterTypes := d.parameterTypes ++ [value] }

def ofSteps (steps : List ReferenceStep) : ReferenceDraft := steps.foldl step empty

def finish (d : ReferenceDraft) : Except Refusal Reference :=
  match Draft.checkHeading d.name? d.returnType? with
  | .error refusal => .error refusal
  | .ok (name, returnType) =>
    match Draft.checkParameterTypes d.parameterTypes with
    | .error refusal => .error refusal
    | .ok () =>
      .ok { returnType := returnType, parameterTypes := d.parameterTypes, name := name }

/-- The reference, or why there is none, with what is reported about it. -/
def build (d : ReferenceDraft) : Logged (Except Refusal Reference) := Draft.report d.finish

end ReferenceDraft

end DexMethod
