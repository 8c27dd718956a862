import DexMethod.Refusal

/-!
# Faults

A fault is a refusal as it leaves the library: a text, and for a blank value also the place
where it was found. Every fault has one line that shows it.
-/

namespace DexMethod

structure Site where
  file : String
  line : UInt32
  deriving DecidableEq

/-- What a caller gets to see of an error. -/
inductive Fault where
  /-- A value that was never given. -/
  | missing (what : String)
  /-- A value that cannot be used, and where that was found. -/
  | malformed (message : String) (site : Site)
  deriving DecidableEq

def Fault.display : Fault → String
  | .missing what => "Required value was not provided - " ++ what
  | .malformed message site =>
    "Malformed - " ++ site.file ++ ":" ++ toString site.line.toNat ++ ": " ++ message

/-- The fault that reports a refusal found at the given place. -/
def Refusal.fault (site : Site) : Refusal → Fault
  | .missing value => .missing value.label
  | .blank value => .malformed value.message site

end DexMethod
