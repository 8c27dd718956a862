import DexMethod.Refusal

/-!
# Events

What the library reports beside its answers: bits of an access word that had to be dropped,
and blank values in a draft. A computation that reports returns its events with its value, in
the order in which they arose.
-/

namespace DexMethod

inductive Level where
  | warn | debug
  deriving DecidableEq

/-- Something worth a line in a log. -/
inductive Event where
  /-- Bits without a name were dropped from a raw access word. -/
  | droppedBits (dropped raw : BitVec 32)
  /-- A draft was refused for a blank value. -/
  | rejected (value : Blank)
  deriving DecidableEq

/-- The lower-case hexadecimal digits of the number behind `0x`, without leading zeros. -/
def hexNumeral (n : Nat) : String := "0x" ++ String.ofList (Nat.toDigits 16 n)

namespace Event

def level : Event → Level
  | droppedBits _ _ => .warn
  | rejected _ => .debug

def message : Event → String
  | droppedBits dropped raw =>
    "Dropping unknown access flag bits " ++ hexNumeral dropped.toNat ++ " from " ++
      hexNumeral raw.toNat
  | rejected .methodName => "Rejecting method with an empty name"
  | rejected (.returnType method) =>
    "Rejecting method " ++ method ++ " with an empty return type"
  | rejected (.parameterType index) =>
    "Rejecting parameter " ++ toString index ++ " with an empty type descriptor"

end Event

/-- The events that go with a refusal: a blank value is reported, a missing one is not. -/
def Refusal.events : Refusal → List Event
  | .missing _ => []
  | .blank value => [.rejected value]

/-- A value and the events that arose on the way to it. -/
structure Logged (α : Type) where
  value : α
  log : List Event
  deriving DecidableEq

end DexMethod
