import DexMethod.Access.Flag

/-!
# Access words

The 32-bit word in which the format stores modifiers. A flag is in a word when its bit is set,
so two flags that share a bit are in the same words. The set operations work on all 32 bits,
those without a name included; only the complement keeps to the bits that have one. Each
operation has a lemma that says which flags are in its result.
-/

namespace DexMethod.Access

/-- An access word, with or without bits that have no name. -/
structure Word where
  bits : BitVec 32
  deriving DecidableEq

namespace Word

theorem bits_inj {v w : Word} : v.bits = w.bits ↔ v = w := by
  cases v; cases w; simp

instance : Membership Flag Word := ⟨fun w f => w.bits.getLsbD f.position = true⟩

theorem mem_def {f : Flag} {w : Word} : f ∈ w ↔ w.bits.getLsbD f.position = true := Iff.rfl

instance (f : Flag) (w : Word) : Decidable (f ∈ w) := decidable_of_iff _ mem_def.symm

instance : EmptyCollection Word := ⟨⟨0⟩⟩

instance : Inhabited Word := ⟨∅⟩

instance : Union Word := ⟨fun v w => ⟨v.bits ||| w.bits⟩⟩

instance : Inter Word := ⟨fun v w => ⟨v.bits &&& w.bits⟩⟩

instance : SDiff Word := ⟨fun v w => ⟨v.bits &&& ~~~w.bits⟩⟩

/-- All bits of the first word are set in the second. -/
instance : HasSubset Word := ⟨fun v w => w.bits &&& v.bits = v.bits⟩

instance (v w : Word) : Decidable (v ⊆ w) := inferInstanceAs (Decidable (w.bits &&& v.bits = v.bits))

def symmDiff (v w : Word) : Word := ⟨v.bits ^^^ w.bits⟩

def ofFlag (f : Flag) : Word := ⟨f.mask⟩

def ofFlags (l : List Flag) : Word := l.foldl (fun w f => w ∪ ofFlag f) ∅

/-- The bits that have a name. -/
def known : Word := ofFlags Flag.all

theorem known_bits : known.bits = 0x437FFF#32 := by decide

def complement (w : Word) : Word := ⟨~~~w.bits⟩ ∩ known

def truncate (w : Word) : Word := w ∩ known

def isEmpty (w : Word) : Bool := w == ∅

def isAll (w : Word) : Bool := decide (known ⊆ w)

def intersects (v w : Word) : Bool := !(v ∩ w).isEmpty

/-- The word with the given bits, if each of them has a name. -/
def ofBits? (bits : BitVec 32) : Option Word :=
  if Word.mk bits ⊆ known then some ⟨bits⟩ else none

@[simp] theorem bits_empty : (∅ : Word).bits = 0 := rfl
@[simp] theorem bits_union (v w : Word) : (v ∪ w).bits = v.bits ||| w.bits := rfl
@[simp] theorem bits_inter (v w : Word) : (v ∩ w).bits = v.bits &&& w.bits := rfl
@[simp] theorem bits_sdiff (v w : Word) : (v \ w).bits = v.bits &&& ~~~w.bits := rfl
@[simp] theorem bits_symmDiff (v w : Word) : (v.symmDiff w).bits = v.bits ^^^ w.bits := rfl
@[simp] theorem bits_complement (w : Word) : w.complement.bits = ~~~w.bits &&& known.bits := rfl
@[simp] theorem bits_truncate (w : Word) : w.truncate.bits = w.bits &&& known.bits := rfl

@[simp] theorem not_mem_empty (f : Flag) : f ∉ (∅ : Word) := by simp [mem_def]

@[simp] theorem mem_union {f : Flag} {v w : Word} : f ∈ v ∪ w ↔ f ∈ v ∨ f ∈ w := by
  simp [mem_def]

@[simp] theorem mem_inter {f : Flag} {v w : Word} : f ∈ v ∩ w ↔ f ∈ v ∧ f ∈ w := by
  simp [mem_def]

@[simp] theorem mem_sdiff {f : Flag} {v w : Word} : f ∈ v \ w ↔ f ∈ v ∧ f ∉ w := by
  have := f.position_lt
  simp [mem_def, this]

@[simp] theorem mem_symmDiff {f : Flag} {v w : Word} :
    f ∈ v.symmDiff w ↔ (f ∈ v ∧ f ∉ w) ∨ (f ∈ w ∧ f ∉ v) := by
  simp only [mem_def, bits_symmDiff, BitVec.getLsbD_xor]
  cases v.bits.getLsbD f.position <;> cases w.bits.getLsbD f.position <;> simp

theorem mem_known (f : Flag) : f ∈ known := by cases f <;> decide

@[simp] theorem mem_complement {f : Flag} {w : Word} : f ∈ w.complement ↔ f ∉ w := by
  have hk := mem_known f
  have := f.position_lt
  simp only [mem_def] at hk
  simp [mem_def, this, hk]

@[simp] theorem mem_truncate {f : Flag} {w : Word} : f ∈ w.truncate ↔ f ∈ w := by
  simp [truncate, mem_known f]

theorem truncate_truncate (w : Word) : w.truncate.truncate = w.truncate := by
  rw [← bits_inj, bits_truncate, bits_truncate, BitVec.and_assoc, BitVec.and_self]

/-- Takes each flag that is in the word together with its bit, so that a bit which two flags
share goes to the first of them. -/
def takeConstants (w : Word) : List Flag → List Flag
  | [] => []
  | f :: rest =>
    if f ∈ w then f :: takeConstants (w \ ofFlag f) rest else takeConstants w rest

/-- The constants that make up the known part of the word, in declaration order. -/
def constants (w : Word) : List Flag := w.takeConstants Flag.all

def ofConstantName? (name : String) : Option Word := (Flag.ofConstantName? name).map ofFlag

end Word

end DexMethod.Access
