import DexMethod.Descriptor.Basic

/-!
# Refusals

Why a draft cannot be finished: a value was never given, or one was given that is blank. The
first kind names what is missing; the second has a message of its own.
-/

namespace DexMethod

/-- A value that a draft cannot do without. -/
inductive Requirement where
  | methodName
  | returnType
  deriving DecidableEq

def Requirement.label : Requirement → String
  | .methodName => "method name"
  | .returnType => "return type"

/-- A value that was given and is the empty text. -/
inductive Blank where
  | methodName
  /-- The return type of the method with the given name. -/
  | returnType (method : String)
  /-- The type of the parameter at the given index, from zero. -/
  | parameterType (index : Nat)
  deriving DecidableEq

/-- What the caller is told about a blank value. -/
def Blank.message : Blank → String
  | .methodName => "Method name is empty"
  | .returnType method => "Method " ++ method ++ " has an empty return type descriptor"
  | .parameterType index => "Parameter " ++ toString index ++ " has an empty type descriptor"

inductive Refusal where
  | missing (value : Requirement)
  | blank (value : Blank)
  deriving DecidableEq

end DexMethod
