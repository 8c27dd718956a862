import DexMethod.Declaration.Basic
import DexMethod.Draft.Check

/-!
# Drafts of methods

A draft collects what is known of a method, in any order. A value given again replaces the one
before it; parameters add up. Finishing a draft does not change it, so it can be tried at any
time.
-/

namespace DexMethod

/-- A method that is not yet complete. -/
structure MethodDraft where
  flags : Access.Word := ∅
  name? : Option String := none
  returnType? : Option Descriptor := none
  parameters : List Parameter := []
  deriving DecidableEq

/-- One step in the making of a method. -/
inductive MethodStep where
  /-- Starts over with an empty draft. -/
  | restart
  | flags (value : Access.Word)
  | name (value : String)
  | returnType (value : Descriptor)
  | parameter (value : Parameter)
  deriving DecidableEq

namespace MethodDraft

def empty : MethodDraft := {}

def step (d : MethodDraft) : MethodStep → MethodDraft
  | .restart => empty
  | .flags value => { d with flags := value }
  | .name value => { d with name? := some value }
  | .returnType value => { d with returnType? := some value }
  | .parameter value => { d with parameters := d.parameters ++ [value] }

def ofSteps (steps : List MethodStep) : MethodDraft := steps.foldl step empty

def finish (d : MethodDraft) : Except Refusal Method :=
  match Draft.checkHeading d.name? d.returnType? with
  | .error refusal => .error refusal
  | .ok (name, returnType) =>
    match Draft.checkParameterTypes (d.parameters.map Parameter.type) with
    | .error refusal => .error refusal
    | .ok () =>
      .ok { flags := d.flags, name := name, returnType := returnType, parameters := d.parameters }

/-- The method, or why there is none, with what is reported about it. -/
def build (d : MethodDraft) : Logged (Except Refusal Method) := Draft.report d.finish

end MethodDraft

end DexMethod
