import DexMethod.Event

/-!
# Checks on drafts

What has to hold before a draft is finished: a name and a return type were given, neither of
them is empty, and no parameter type is empty. The checks come in this order, and the first
that fails is the refusal.
-/

namespace DexMethod.Draft

/-- The name and the return type, if both were given and neither is empty. -/
def checkHeading (name? : Option String) (returnType? : Option Descriptor) :
    Except Refusal (String × Descriptor) :=
  match name?, returnType? with
  | none, _ => .error (.missing .methodName)
  | some _, none => .error (.missing .returnType)
  | some name, some returnType =>
    if name.isEmpty then .error (.blank .methodName)
    else if returnType.isEmpty then .error (.blank (.returnType name))
    else .ok (name, returnType)

theorem checkHeading_eq_ok_iff {name? : Option String} {returnType? : Option Descriptor}
    {name : String} {returnType : Descriptor} :
    checkHeading name? returnType? = .ok (name, returnType) ↔
      name? = some name ∧ returnType? = some returnType ∧
        name.isEmpty = false ∧ returnType.isEmpty = false := by
  unfold checkHeading
  split
  · simp
  · simp
  · rename_i n r
    by_cases hn : n.isEmpty = true
    · simp only [hn, if_true]
      grind
    · by_cases hr : r.isEmpty = true
      · simp only [hn, hr, if_true]
        grind
      · simp only [hn, hr]
        grind

/-- Refuses the first empty type. -/
def checkParameterTypes (types : List Descriptor) : Except Refusal Unit :=
  match types.findIdx? Descriptor.isEmpty with
  | some index => .error (.blank (.parameterType index))
  | none => .ok ()

theorem checkParameterTypes_eq_ok_iff {types : List Descriptor} :
    checkParameterTypes types = .ok () ↔ ∀ d ∈ types, d.isEmpty = false := by
  unfold checkParameterTypes
  split
  · rename_i index h
    have := (List.findIdx?_eq_some_iff_getElem.1 h)
    obtain ⟨hlt, he, -⟩ := this
    constructor
    · intro hc
      cases hc
    · intro hall
      rw [hall _ (List.getElem_mem hlt)] at he
      cases he
  · rename_i h
    simpa using h

/-- The outcome of a draft with the events of its refusal. -/
def report {α : Type} (outcome : Except Refusal α) : Logged (Except Refusal α) :=
  ⟨outcome, match outcome with
    | .error refusal => refusal.events
    | .ok _ => []⟩

end DexMethod.Draft
