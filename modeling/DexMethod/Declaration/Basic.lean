import DexMethod.Access.Word
import DexMethod.Reference

/-!
# Declarations

What a declaration of a method tells: its access word, its name, its prototype and its
parameters. A `Declaration` is the general view, in which the parameter types of the prototype
and the parameters are told separately and need not agree; the prototype decides about the
call, the parameters about the text. A `Method` holds its parameters once, and its declaration
takes the types from them.
-/

namespace DexMethod

/-- A declared parameter; the name is there only if it was recorded. -/
structure Parameter where
  type : Descriptor
  name : Option String
  deriving DecidableEq

/-- A method as it is declared, whoever tells it. -/
structure Declaration extends Reference where
  flags : Access.Word
  parameters : List Parameter
  deriving DecidableEq

structure Method where
  flags : Access.Word
  name : String
  returnType : Descriptor
  parameters : List Parameter
  deriving DecidableEq

namespace Method

def parameterTypes (m : Method) : List Descriptor := m.parameters.map Parameter.type

/-- What a call site sees: no flags and no parameter names. -/
def reference (m : Method) : Reference :=
  { returnType := m.returnType, parameterTypes := m.parameterTypes, name := m.name }

/-- The declaration in which the prototype takes its types from the parameters. -/
def declaration (m : Method) : Declaration :=
  { m.reference with flags := m.flags, parameters := m.parameters }

@[simp] theorem declaration_toReference (m : Method) :
    m.declaration.toReference = m.reference := rfl

@[simp] theorem declaration_parameters (m : Method) :
    m.declaration.parameters = m.parameters := rfl

end Method

namespace Declaration

def isAbstract (d : Declaration) : Bool := decide (.accAbstract ∈ d.flags)

def isDefault (d : Declaration) : Bool := decide (.accDefault ∈ d.flags)

def isStatic (d : Declaration) : Bool := decide (.accStatic ∈ d.flags)

/-- The registers that the arguments of a call take; the flags say whether it is static. -/
def callRegisters (d : Declaration) : Nat := d.registers d.isStatic

end Declaration

end DexMethod
