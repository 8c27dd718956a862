import DexMethod.Prototype

/-!
# Method references

A method as a call site names it: by name and prototype. How it was declared is not known
here, so whether the call is static has to be said from outside.
-/

namespace DexMethod

structure Reference extends Prototype where
  name : String
  deriving DecidableEq

namespace Reference

def constructorName : String := "<init>"

/-- Whether the name is that of an instance initializer; static ones have another. -/
def isConstructor (r : Reference) : Bool := r.name == constructorName

/-- The name, the parameter types in parentheses without a separator, and the return type. -/
def display (r : Reference) : String :=
  r.name ++ "(" ++ String.join (r.parameterTypes.map Descriptor.text) ++ ")" ++ r.returnType.text

instance : ToString Reference := ⟨display⟩

end Reference

end DexMethod
