import DexMethod.Declaration.Basic

/-!
# Dispatch

Static methods, private methods and constructors cannot be overridden and are called directly;
all others are looked up at run time. Only the flags count: a method with the name of a
constructor and without the flag is looked up.
-/

namespace DexMethod

/-- The flags that make a method direct. -/
def directFlags : Access.Word := .ofFlags [.accStatic, .accPrivate, .accConstructor]

theorem directFlags_bits : directFlags.bits = 0x1000A#32 := by decide

namespace Declaration

def isDirect (d : Declaration) : Bool := d.flags.intersects directFlags

def isVirtual (d : Declaration) : Bool := !d.isDirect

end Declaration

/-- The direct and the virtual members among some values that declare methods, each in the
order of the list. -/
def splitByDispatch {α : Type} (declaration : α → Declaration) (members : List α) :
    List α × List α :=
  members.partition fun a => (declaration a).isDirect

end DexMethod
