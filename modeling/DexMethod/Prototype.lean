import DexMethod.Descriptor.Basic

/-!
# Prototypes

The types of a call: what it returns and what it takes. Two things follow from them alone, the
shorty, in which every type is one letter, and the number of registers the arguments take.
-/

namespace DexMethod

/-- A return type and the parameter types in order, the receiver left out. -/
structure Prototype where
  returnType : Descriptor
  parameterTypes : List Descriptor
  deriving DecidableEq

/-- The registers that the arguments of a call take: one or two for each, and one in front for
the receiver unless the call is static. -/
def argumentRegisters (types : List Descriptor) (isStatic : Bool) : Nat :=
  (if isStatic then 0 else 1) + types.foldr (fun d n => d.registerWidth + n) 0

namespace Prototype

def types (p : Prototype) : List Descriptor := p.returnType :: p.parameterTypes

/-- One letter for each type. An empty descriptor has no letter and is passed over. -/
def shorty (p : Prototype) : String := String.ofList (p.types.filterMap Descriptor.shortyLetter?)

def registers (p : Prototype) (isStatic : Bool) : Nat := argumentRegisters p.parameterTypes isStatic

end Prototype

end DexMethod
