/-!
# Access flags

The modifiers of the DEX format by name. Each flag has one bit of an access word, one keyword
and one constant name, and it has a meaning on some of the targets a word can belong to. Two
bits are shared: bit 6 is `volatile` on a field and `bridge` on a method, bit 7 is `transient`
on a field and `varargs` on a method. On one target a bit never has two meanings.
-/

namespace DexMethod.Access

/-- The named flags, in the order in which a declaration writes them. -/
inductive Flag where
  | accPublic | accPrivate | accProtected | accStatic | accFinal | accSynchronized
  | accVolatile | accBridge | accTransient | accVarargs | accNative | accInterface
  | accAbstract | accStrictfp | accSynthetic | accAnnotationType | accEnum
  | accConstructor | accDeclaredSynchronized
  /-- Marks the default methods of interfaces; it is set at run time and never written. -/
  | accDefault
  deriving DecidableEq

/-- What an access word belongs to. -/
inductive Target where
  | method | field | classDef
  deriving DecidableEq

namespace Flag

def all : List Flag :=
  [.accPublic, .accPrivate, .accProtected, .accStatic, .accFinal, .accSynchronized,
    .accVolatile, .accBridge, .accTransient, .accVarargs, .accNative, .accInterface,
    .accAbstract, .accStrictfp, .accSynthetic, .accAnnotationType, .accEnum,
    .accConstructor, .accDeclaredSynchronized, .accDefault]

theorem mem_all (f : Flag) : f ∈ all := by cases f <;> decide

/-- The bit of the flag, counted from the lowest. -/
def position : Flag → Nat
  | accPublic => 0
  | accPrivate => 1
  | accProtected => 2
  | accStatic => 3
  | accFinal => 4
  | accSynchronized => 5
  | accVolatile | accBridge => 6
  | accTransient | accVarargs => 7
  | accNative => 8
  | accInterface => 9
  | accAbstract => 10
  | accStrictfp => 11
  | accSynthetic => 12
  | accAnnotationType => 13
  | accEnum => 14
  | accConstructor => 16
  | accDeclaredSynchronized => 17
  | accDefault => 22

theorem position_lt (f : Flag) : f.position < 32 := by cases f <;> decide

def mask (f : Flag) : BitVec 32 := BitVec.twoPow 32 f.position

theorem getLsbD_mask (f : Flag) (i : Nat) : f.mask.getLsbD i = decide (i = f.position) := by
  have := f.position_lt
  simp only [mask, BitVec.getLsbD_twoPow]
  by_cases h : i = f.position
  · simp [h, this]
  · have h' : ¬ f.position = i := fun e => h e.symm
    simp [h, h']

def keyword : Flag → String
  | accPublic => "public"
  | accPrivate => "private"
  | accProtected => "protected"
  | accStatic => "static"
  | accFinal => "final"
  | accSynchronized => "synchronized"
  | accVolatile => "volatile"
  | accBridge => "bridge"
  | accTransient => "transient"
  | accVarargs => "varargs"
  | accNative => "native"
  | accInterface => "interface"
  | accAbstract => "abstract"
  | accStrictfp => "strictfp"
  | accSynthetic => "synthetic"
  | accAnnotationType => "annotation"
  | accEnum => "enum"
  | accConstructor => "constructor"
  | accDeclaredSynchronized => "declared-synchronized"
  | accDefault => "default"

instance : ToString Flag := ⟨keyword⟩

/-- The name of the flag's constant in the format's tables. -/
def constantName : Flag → String
  | accPublic => "PUBLIC"
  | accPrivate => "PRIVATE"
  | accProtected => "PROTECTED"
  | accStatic => "STATIC"
  | accFinal => "FINAL"
  | accSynchronized => "SYNCHRONIZED"
  | accVolatile => "VOLATILE"
  | accBridge => "BRIDGE"
  | accTransient => "TRANSIENT"
  | accVarargs => "VARARGS"
  | accNative => "NATIVE"
  | accInterface => "INTERFACE"
  | accAbstract => "ABSTRACT"
  | accStrictfp => "STRICTFP"
  | accSynthetic => "SYNTHETIC"
  | accAnnotationType => "ANNOTATION"
  | accEnum => "ENUM"
  | accConstructor => "CONSTRUCTOR"
  | accDeclaredSynchronized => "DECLARED_SYNCHRONIZED"
  | accDefault => "DEFAULT"

def ofConstantName? (name : String) : Option Flag := all.find? fun f => f.constantName == name

def validFor : Flag → Target → Bool
  | accPublic, _ | accPrivate, _ | accProtected, _ | accStatic, _ | accFinal, _ => true
  | accSynthetic, _ => true
  | accSynchronized, .method | accBridge, .method | accVarargs, .method => true
  | accNative, .method | accStrictfp, .method | accConstructor, .method => true
  | accDeclaredSynchronized, .method => true
  | accVolatile, .field | accTransient, .field => true
  | accInterface, .classDef | accAnnotationType, .classDef => true
  | accAbstract, .method | accAbstract, .classDef => true
  | accEnum, .field | accEnum, .classDef => true
  | _, _ => false

end Flag

/-- The flags with a meaning on the target, in declaration order. -/
def Target.flags (t : Target) : List Flag := Flag.all.filter (·.validFor t)

end DexMethod.Access
