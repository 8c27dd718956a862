import DexMethod.Access.Keywords
import DexMethod.Declaration.Basic
import DexMethod.Descriptor.Shape

/-!
# Declarations in source

The line that writes a declaration the way source code does: modifiers, return type, name, and
the parameters with type and name. A parameter whose name was not recorded gets a placeholder
that fits its type.
-/

namespace DexMethod

namespace Parameter

/-- The recorded name or the placeholder; a recorded name counts even if it is empty. -/
def label (p : Parameter) : String := p.name.getD p.type.placeholder

def source (p : Parameter) : String := p.type.sourceName ++ " " ++ p.label

end Parameter

namespace Declaration

/-- The modifiers of the method, each with a space behind it. -/
def modifierText (d : Declaration) : String :=
  String.join ((d.flags.modifiers .method).map fun f => f.keyword ++ " ")

/-- The parameters with a comma and a space between them. -/
def parameterText (d : Declaration) : String :=
  ", ".intercalate (d.parameters.map Parameter.source)

def source (d : Declaration) : String :=
  d.modifierText ++ d.returnType.sourceName ++ " " ++ d.name ++ "(" ++ d.parameterText ++ ")"

end Declaration

def Method.source (m : Method) : String := m.declaration.source

instance : ToString Method := ⟨Method.source⟩

end DexMethod
