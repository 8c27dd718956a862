import DexMethod.Declaration.Source
import DexMethod.Proofs.Access.Modifiers
import DexMethod.Proofs.Descriptor.SourceName
import DexMethod.Proofs.Separator

/-!
# Reading declarations back

A line of source is cut at its separators: the tokens in front of the first parenthesis, the
last two of which are the return type and the name, and the parameters behind it. If no part
contains a separator, the line tells all that it is made from.
-/

namespace DexMethod

/-- The characters that set the parts of a line apart. -/
def separators : List Char := [' ', ',', '(', ')']

def Bare (text : String) : Prop := ∀ c ∈ separators, c ∉ text.toList

instance (text : String) : Decidable (Bare text) :=
  List.decidableBAll (fun c => c ∉ text.toList) separators

theorem Access.Flag.bare_keyword (f : Access.Flag) : Bare f.keyword := by
  cases f <;> decide

theorem Element.bare_sourceName {e : Element} (h : ∀ c ∈ separators, c ∉ e.chars) :
    Bare e.sourceName := by
  cases e with
  | primitive p => cases p <;> decide
  | object name =>
      intro c separator member
      simp only [sourceName, String.toList_map, List.mem_map] at member
      obtain ⟨a, inside, same⟩ := member
      have dot : c ≠ '.' := by
        rintro rfl
        exact absurd separator (by decide)
      have here : a = c := eq_of_replaced dot same
      exact h c separator (by simp [chars, ← here, inside])

theorem Shape.bare_sourceName {s : Shape} (h : Bare s.descriptor.text) : Bare s.sourceName := by
  have element : Bare s.element.sourceName := by
    apply Element.bare_sourceName
    intro c separator member
    apply h c separator
    change c ∈ s.descriptor.chars
    rw [Shape.descriptor, Descriptor.chars_ofChars]
    exact List.mem_append_right _ member
  intro c separator member
  rw [sourceName, String.toList_append, String.toList_join, List.mem_append] at member
  rcases member with inside | bracket
  · exact element c separator inside
  · simp only [List.mem_flatMap, List.mem_replicate] at bracket
    obtain ⟨_, ⟨-, rfl⟩, bracket⟩ := bracket
    have pair : Bare "[]" := by decide
    exact pair c separator bracket

/-- The source name of a type brings no separator into the line. -/
theorem Descriptor.bare_sourceName {d : Descriptor} (h : Bare d.text) : Bare d.sourceName := by
  unfold sourceName
  cases shaped : d.shape? with
  | none => exact h
  | some s =>
      rw [shape?_eq_some_iff] at shaped
      subst shaped
      exact Shape.bare_sourceName h

namespace Parameter

/-- Nothing in the parameter is taken for a separator, and its type can be read back. -/
structure Legible (p : Parameter) : Prop where
  bare : Bare p.type.text
  plain : p.type.Plain
  name : ∀ name ∈ p.name, Bare name

theorem map_label (ps : List Parameter) :
    ps.map label = ps.map fun p => p.name.getD p.type.placeholder := rfl

theorem Legible.bare_label {p : Parameter} (h : p.Legible) : Bare p.label := by
  unfold label
  cases recorded : p.name with
  | some name => exact h.name name recorded
  | none =>
      simp only [Option.getD_none, Descriptor.placeholder]
      split
      · decide
      · split
        · decide
        · decide

theorem toList_source (p : Parameter) :
    p.source.toList = p.type.sourceName.toList ++ ' ' :: p.label.toList := by
  simp only [source, String.toList_append, List.append_assoc]
  rfl

theorem Legible.source_eq_iff {p q : Parameter} (hp : p.Legible) (hq : q.Legible) :
    p.source = q.source ↔ p.type = q.type ∧ p.label = q.label := by
  constructor
  · intro h
    have shown := congrArg String.toList h
    rw [toList_source, toList_source] at shown
    have hps := Descriptor.bare_sourceName hp.bare ' ' (by decide)
    have hqs := Descriptor.bare_sourceName hq.bare ' ' (by decide)
    obtain ⟨types, labels⟩ := append_separator_inj hps hqs shown
    exact ⟨hp.plain.sourceName_inj hq.plain (String.toList_inj.mp types),
      String.toList_inj.mp labels⟩
  · rintro ⟨type, label⟩
    rw [source, source, type, label]

theorem Legible.comma_not_mem_source {p : Parameter} (h : p.Legible) : ',' ∉ p.source.toList := by
  have htype := Descriptor.bare_sourceName h.bare ',' (by decide)
  have hlabel := h.bare_label ',' (by decide)
  simp [toList_source, htype, hlabel]

theorem map_source_eq_iff {ps qs : List Parameter} (hp : ∀ p ∈ ps, p.Legible)
    (hq : ∀ q ∈ qs, q.Legible) :
    ps.map source = qs.map source ↔ ps.map type = qs.map type ∧ ps.map label = qs.map label := by
  induction ps generalizing qs with
  | nil => cases qs <;> simp
  | cons p ps ih =>
      cases qs with
      | nil => simp
      | cons q qs =>
          have heads := (hp p List.mem_cons_self).source_eq_iff (hq q List.mem_cons_self)
          have tails := ih (fun a m => hp a (List.mem_cons_of_mem _ m))
            (fun a m => hq a (List.mem_cons_of_mem _ m))
          simp only [List.map_cons, List.cons.injEq, heads, tails]
          constructor
          · rintro ⟨⟨type, label⟩, types, labels⟩
            exact ⟨⟨type, types⟩, label, labels⟩
          · rintro ⟨⟨type, types⟩, label, labels⟩
            exact ⟨⟨type, label⟩, types, labels⟩

/-- Even a parameter with an empty name has a space in it. -/
theorem intercalate_source_inj {ps qs : List Parameter} (hp : ∀ p ∈ ps, p.Legible)
    (hq : ∀ q ∈ qs, q.Legible)
    (h : ", ".intercalate (ps.map source) = ", ".intercalate (qs.map source)) :
    ps.map source = qs.map source := by
  have commas {rs : List Parameter} (hr : ∀ r ∈ rs, r.Legible) :
      ∀ l ∈ (rs.map source).map String.toList, ',' ∉ l := by
    intro l member
    obtain ⟨s, shown, rfl⟩ := List.mem_map.mp member
    obtain ⟨r, inside, rfl⟩ := List.mem_map.mp shown
    exact (hr r inside).comma_not_mem_source
  -- no parameters and one empty text would give the same line
  have space (r : Parameter) (rs : List Parameter) :
      (", ".intercalate ((r :: rs).map source)).toList ≠ [] := by
    rw [String.toList_intercalate]
    have inside : ' ' ∈ r.source.toList := by simp [toList_source]
    exact List.ne_nil_of_mem (mem_intercalate_cons inside _ _)
  have shown := congrArg String.toList h
  cases ps with
  | nil =>
      cases qs with
      | nil => rfl
      | cons q qs => exact absurd shown.symm (space q qs)
  | cons p ps =>
      cases qs with
      | nil => exact absurd shown (space p ps)
      | cons q qs =>
          rw [String.toList_intercalate, String.toList_intercalate] at shown
          have parts := intercalate_inj (commas hp) (commas hq) (by simp) (by simp) shown
          exact (List.map_inj_right fun _ _ => String.toList_injective).mp parts

end Parameter

namespace Declaration

/-- What stands in front of the first parenthesis; only the last two tokens are always there. -/
def tokens (d : Declaration) : List String :=
  (d.flags.modifiers .method).map Access.Flag.keyword ++ [d.returnType.sourceName, d.name]

theorem source_eq_tokens (d : Declaration) :
    d.source = " ".intercalate d.tokens ++ "(" ++ d.parameterText ++ ")" := by
  have last : d.returnType.sourceName ++ " " ++ d.name =
      " ".intercalate [d.returnType.sourceName, d.name] := by
    rw [String.intercalate_cons_cons, String.intercalate_singleton]
  have header : d.modifierText ++ (d.returnType.sourceName ++ " " ++ d.name) =
      " ".intercalate d.tokens := by
    rw [last, tokens, ← join_append_intercalate " " _ (by simp), modifierText, List.map_map]
    rfl
  rw [← header, source]
  simp only [String.append_assoc]

end Declaration

namespace Method
open Access (Target)

/-- The name and the types are free of separators, and the types can be read back. -/
structure Legible (m : Method) : Prop where
  name : Bare m.name
  bare : Bare m.returnType.text
  plain : m.returnType.Plain
  parameters : ∀ p ∈ m.parameters, p.Legible

theorem Legible.bare_tokens {m : Method} (h : m.Legible) : ∀ t ∈ m.declaration.tokens, Bare t := by
  intro t member
  rw [Declaration.tokens, List.mem_append] at member
  rcases member with modifier | last
  · obtain ⟨f, -, rfl⟩ := List.mem_map.mp modifier
    exact f.bare_keyword
  · simp only [List.mem_cons, List.not_mem_nil, or_false] at last
    rcases last with rfl | rfl
    · exact Descriptor.bare_sourceName h.bare
    · exact h.name

theorem Legible.bare_toList {m : Method} (h : m.Legible) {c : Char} (hc : c ∈ separators) :
    ∀ l ∈ m.declaration.tokens.map String.toList, c ∉ l := by
  intro l member
  obtain ⟨t, inside, rfl⟩ := List.mem_map.mp member
  exact h.bare_tokens t inside c hc

theorem source_eq (m : Method) :
    m.source = " ".intercalate m.declaration.tokens ++ "(" ++
      ", ".intercalate (m.parameters.map Parameter.source) ++ ")" := by
  rw [source, Declaration.source_eq_tokens, Declaration.parameterText, declaration_parameters]

theorem toList_source (m : Method) :
    m.source.toList = (" ".intercalate m.declaration.tokens).toList ++
      '(' :: ((", ".intercalate (m.parameters.map Parameter.source)).toList ++ [')']) := by
  rw [source_eq]
  simp only [String.toList_append, List.append_assoc]
  rfl

theorem Legible.not_mem_intercalate_tokens {m : Method} (h : m.Legible) :
    '(' ∉ (" ".intercalate m.declaration.tokens).toList := by
  rw [String.toList_intercalate]
  exact not_mem_intercalate (by decide) (h.bare_toList (by decide))

/-- The first parenthesis parts the tokens from the parameters. -/
theorem Legible.source_inj {m n : Method} (hm : m.Legible) (hn : n.Legible)
    (h : m.source = n.source) :
    m.declaration.tokens = n.declaration.tokens ∧
      m.parameters.map Parameter.source = n.parameters.map Parameter.source := by
  have shown := congrArg String.toList h
  rw [toList_source, toList_source] at shown
  obtain ⟨headers, lists⟩ :=
    append_separator_inj hm.not_mem_intercalate_tokens hn.not_mem_intercalate_tokens shown
  constructor
  · rw [String.toList_intercalate, String.toList_intercalate] at headers
    have parts := intercalate_inj (hm.bare_toList (by decide)) (hn.bare_toList (by decide))
      (by simp [Declaration.tokens]) (by simp [Declaration.tokens]) headers
    exact (List.map_inj_right fun _ _ => String.toList_injective).mp parts
  · have texts := String.toList_inj.mp (List.append_cancel_right lists)
    exact Parameter.intercalate_source_inj hm.parameters hn.parameters texts

theorem tokens_eq_iff {m n : Method} (hm : m.Legible) (hn : n.Legible) :
    m.declaration.tokens = n.declaration.tokens ↔
      m.flags.modifiers .method = n.flags.modifiers .method ∧
        m.returnType = n.returnType ∧ m.name = n.name := by
  constructor
  · intro h
    obtain ⟨keywords, last⟩ := List.append_inj' h rfl
    obtain ⟨returnType, rest⟩ := List.cons.inj last
    have modifiers := (List.map_inj_right Access.Flag.keyword_injective).mp keywords
    exact ⟨modifiers, hm.plain.sourceName_inj hn.plain returnType, (List.cons.inj rest).1⟩
  · rintro ⟨modifiers, returnType, name⟩
    change (m.flags.modifiers .method).map _ ++ [m.returnType.sourceName, m.name] =
      (n.flags.modifiers .method).map _ ++ [n.returnType.sourceName, n.name]
    rw [modifiers, returnType, name]

theorem reference_eq_iff {m n : Method} :
    m.reference = n.reference ↔ m.returnType = n.returnType ∧
      m.parameters.map Parameter.type = n.parameters.map Parameter.type ∧ m.name = n.name := by
  simp only [reference, parameterTypes, Reference.mk.injEq, Prototype.mk.injEq, and_assoc]

end Method

end DexMethod
