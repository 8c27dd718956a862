import DexMethod.Proofs.Descriptor.Expansion

/-!
# Reading source names back

A source name is read from its end: the pairs of brackets are taken off and counted, and what is
left is a primitive's keyword or else the name of a class. Class names that contain a dot, end in
a pair of brackets or are keywords themselves are lost this way; all others come back. Main
statement: just these descriptors are read back, and so no two of them share a source name.
-/

namespace DexMethod

namespace Primitive

def ofKeyword? (keyword : String) : Option Primitive := all.find? fun p => p.keyword == keyword

@[simp] theorem ofKeyword?_keyword (p : Primitive) : ofKeyword? p.keyword = some p := by
  cases p <;> decide

instance {P : Primitive → Prop} [DecidablePred P] : Decidable (∀ p, P p) :=
  decidable_of_iff (∀ p ∈ all, P p) ⟨fun h p => h p (mem_all p), fun h p _ => h p⟩

theorem eq_keyword_of_ofKeyword? {keyword : String} {p : Primitive}
    (h : ofKeyword? keyword = some p) : keyword = p.keyword := by
  have found := List.find?_some h
  exact (eq_of_beq found).symm

theorem ofKeyword?_eq_none {keyword : String} (h : ∀ p : Primitive, keyword ≠ p.keyword) :
    ofKeyword? keyword = none := by
  cases found : ofKeyword? keyword with
  | none => rfl
  | some p => exact absurd (eq_keyword_of_ofKeyword? found) (h p)

end Primitive

/-- Writing one character for another makes no third. -/
theorem eq_of_replaced {a b c d : Char} (hd : d ≠ b) (h : (if c = a then b else c) = d) :
    c = d := by
  by_cases found : c = a
  · rw [if_pos found] at h
    exact absurd h.symm hd
  · rwa [if_neg found] at h

/-- A slash for each dot. -/
def slashed (name : String) : String := name.map fun c => if c = '.' then '/' else c

theorem toList_slashed (name : String) :
    (slashed name).toList = name.toList.map fun c => if c = '.' then '/' else c := by
  rw [slashed, String.toList_map]

theorem slashed_keyword (p : Primitive) : slashed p.keyword = p.keyword := by
  apply String.toList_inj.mp
  rw [toList_slashed]
  cases p <;> decide

theorem dot_not_mem_slashed (name : String) : '.' ∉ (slashed name).toList := by
  rw [toList_slashed, List.mem_map]
  rintro ⟨c, -, same⟩
  obtain rfl := eq_of_replaced (by decide) same
  exact absurd same (by decide)

/-- Without a slash in the outcome, no dot was replaced. -/
theorem slashed_of_slash_not_mem {name : String} (h : '/' ∉ (slashed name).toList) :
    slashed name = name := by
  have kept : ∀ c ∈ name.toList, (if c = '.' then '/' else c) = c := by
    intro c member
    refine if_neg fun dot => h ?_
    rw [toList_slashed]
    exact List.mem_map.mpr ⟨c, member, if_pos dot⟩
  apply String.toList_inj.mp
  rw [toList_slashed, List.map_congr_left kept, List.map_id']

/-- A map that makes no brackets leaves them where they were. -/
theorem brackets_suffix_of_map {f : Char → Char} (left : ∀ c, f c = '[' → c = '[')
    (right : ∀ c, f c = ']' → c = ']') {l : List Char} (h : ['[', ']'] <:+ l.map f) :
    ['[', ']'] <:+ l := by
  obtain ⟨l', ends, same⟩ := List.suffix_map_iff.mp h
  obtain ⟨a, rest, rfl, ha, same⟩ := List.map_eq_cons_iff.mp same.symm
  obtain ⟨b, nothing, rfl, hb, same⟩ := List.map_eq_cons_iff.mp same
  obtain rfl := List.map_eq_nil_iff.mp same
  rwa [left a ha, right b hb] at ends

namespace Element

/-- The source name of the element is read as that element again. -/
def Plain : Element → Prop
  | .primitive _ => True
  | .object name =>
    '.' ∉ name.toList ∧ ¬ ['[', ']'] <:+ name.toList ∧ ∀ p : Primitive, name ≠ p.keyword

instance : DecidablePred Plain
  | .primitive _ => isTrue trivial
  | .object name => inferInstanceAs (Decidable
    ('.' ∉ name.toList ∧ ¬ ['[', ']'] <:+ name.toList ∧ ∀ p : Primitive, name ≠ p.keyword))

def ofSourceName (name : String) : Element :=
  match Primitive.ofKeyword? name with
  | some p => .primitive p
  | none => .object (slashed name)

theorem slashed_sourceName {name : String} (h : '.' ∉ name.toList) :
    slashed (object name).sourceName = name := by
  apply String.toList_inj.mp
  simp only [toList_slashed, sourceName_object, toList_dotted, List.map_map]
  conv => rhs; rw [← List.map_id name.toList]
  apply List.map_congr_left
  intro c member
  have dot : c ≠ '.' := fun same => h (same ▸ member)
  by_cases slash : c = '/'
  · simp [slash]
  · simp [slash, dot]

theorem ofSourceName_sourceName {e : Element} (h : e.Plain) : ofSourceName e.sourceName = e := by
  cases e with
  | primitive p => simp only [ofSourceName, sourceName, Primitive.ofKeyword?_keyword]
  | object name =>
      obtain ⟨dots, -, keywords⟩ := h
      have back := slashed_sourceName dots
      unfold ofSourceName
      cases found : Primitive.ofKeyword? (object name).sourceName with
      | none => simp only [back]
      | some p =>
          rw [Primitive.eq_keyword_of_ofKeyword? found, slashed_keyword] at back
          exact absurd back.symm (keywords p)

/-- Brackets at the end of a source name are never part of the element. -/
theorem sourceName_brackets {e : Element} (h : e.Plain) :
    ¬ ['[', ']'] <:+ e.sourceName.toList := by
  cases e with
  | primitive p => cases p <;> decide
  | object name =>
      obtain ⟨-, brackets, -⟩ := h
      intro suffix
      rw [sourceName_object, toList_dotted] at suffix
      exact brackets (brackets_suffix_of_map (fun _ => eq_of_replaced (by decide))
        (fun _ => eq_of_replaced (by decide)) suffix)

/-- What is read from a text without brackets at its end is plain. -/
theorem plain_ofSourceName {name : String} (h : ¬ ['[', ']'] <:+ name.toList) :
    (ofSourceName name).Plain := by
  unfold ofSourceName
  cases found : Primitive.ofKeyword? name with
  | some p => trivial
  | none =>
      refine ⟨dot_not_mem_slashed name, ?_, ?_⟩
      · intro suffix
        rw [toList_slashed] at suffix
        exact h (brackets_suffix_of_map (fun _ => eq_of_replaced (by decide))
          (fun _ => eq_of_replaced (by decide)) suffix)
      · intro p same
        -- a keyword has no slashes, so the text was the keyword itself and would have been found
        have slashes : '/' ∉ (slashed name).toList := by
          rw [same]
          cases p <;> decide
        rw [← slashed_of_slash_not_mem slashes, same, Primitive.ofKeyword?_keyword] at found
        cases found

end Element

namespace Shape

/-- Takes the pairs of brackets off the front of a reversed text and counts them. -/
def stripBrackets : List Char → Nat × List Char
  | ']' :: '[' :: rest => ((stripBrackets rest).1 + 1, (stripBrackets rest).2)
  | l => (0, l)

theorem stripBrackets_of_none {l : List Char} (h : ¬ [']', '['] <+: l) :
    stripBrackets l = (0, l) := by
  unfold stripBrackets
  split
  · exact absurd ⟨_, rfl⟩ h
  · rfl

theorem stripBrackets_replicate {l : List Char} (h : ¬ [']', '['] <+: l) (n : Nat) :
    stripBrackets ((List.replicate n [']', '[']).flatten ++ l) = (n, l) := by
  induction n with
  | zero => exact stripBrackets_of_none h
  | succ n ih =>
      simp only [List.replicate_succ, List.flatten_cons, List.cons_append, List.nil_append,
        stripBrackets, ih]

def ofSourceName (text : String) : Shape where
  rank := (stripBrackets text.toList.reverse).1
  element := .ofSourceName (String.ofList (stripBrackets text.toList.reverse).2.reverse)

theorem reverse_append_brackets (name : String) (n : Nat) :
    (name ++ brackets n).toList.reverse =
      (List.replicate n [']', '[']).flatten ++ name.toList.reverse := by
  rw [String.toList_append, toList_brackets, List.reverse_append, List.reverse_flatten,
    List.map_replicate, List.reverse_replicate]
  rfl

theorem ofSourceName_append_brackets {name : String} (h : ¬ ['[', ']'] <:+ name.toList) (n : Nat) :
    ofSourceName (name ++ brackets n) = ⟨n, .ofSourceName name⟩ := by
  have front : ¬ [']', '['] <+: name.toList.reverse :=
    fun start => h (List.reverse_prefix.mp start)
  unfold ofSourceName
  rw [reverse_append_brackets, stripBrackets_replicate front]
  simp only [List.reverse_reverse, String.ofList_toList]

theorem ofSourceName_sourceName {s : Shape} (h : s.element.Plain) :
    ofSourceName s.sourceName = s := by
  calc
    ofSourceName s.sourceName = ofSourceName (s.element.sourceName ++ brackets s.rank) := rfl
    _ = ⟨s.rank, .ofSourceName s.element.sourceName⟩ :=
      ofSourceName_append_brackets (Element.sourceName_brackets h) s.rank
    _ = s := by rw [Element.ofSourceName_sourceName h]

theorem not_prefix_stripBrackets (l : List Char) : ¬ [']', '['] <+: (stripBrackets l).2 := by
  fun_induction stripBrackets l with
  | case1 rest ih => exact ih
  | case2 l other =>
      rintro ⟨rest, same⟩
      exact other rest same.symm

theorem plain_ofSourceName (text : String) : (ofSourceName text).element.Plain := by
  apply Element.plain_ofSourceName
  rw [String.toList_ofList, ← List.reverse_prefix, List.reverse_reverse]
  exact not_prefix_stripBrackets _

end Shape

namespace Descriptor

/-- A well-formed descriptor that its source name brings back. -/
def Plain (d : Descriptor) : Prop := ∃ s : Shape, d = s.descriptor ∧ s.element.Plain

theorem plain_iff {d : Descriptor} : d.Plain ↔ ∃ s ∈ d.shape?, s.element.Plain := by
  simp only [Plain, Option.mem_def, shape?_eq_some_iff]

instance (d : Descriptor) : Decidable d.Plain := decidable_of_iff _ plain_iff.symm

def ofSourceName (text : String) : Descriptor := (Shape.ofSourceName text).descriptor

theorem Plain.ofSourceName_sourceName {d : Descriptor} (h : d.Plain) :
    ofSourceName d.sourceName = d := by
  obtain ⟨s, rfl, plain⟩ := h
  rw [sourceName_descriptor, ofSourceName, Shape.ofSourceName_sourceName plain]

theorem Plain.sourceName_inj {d e : Descriptor} (hd : d.Plain) (he : e.Plain)
    (h : d.sourceName = e.sourceName) : d = e := by
  rw [← hd.ofSourceName_sourceName, h, he.ofSourceName_sourceName]

theorem plain_ofSourceName (text : String) : (ofSourceName text).Plain :=
  ⟨Shape.ofSourceName text, rfl, Shape.plain_ofSourceName text⟩

theorem chars_ofSourceName {name : String} (h : ¬ ['[', ']'] <:+ name.toList) (n : Nat) :
    (ofSourceName (name ++ brackets n)).chars =
      List.replicate n arrayMark ++ (Element.ofSourceName name).chars := by
  rw [ofSourceName, Shape.ofSourceName_append_brackets h, Shape.descriptor, chars_ofChars]

/-- Source names tell plain descriptors apart, and reading a source name gives the descriptor back
exactly if it is plain: the pairs of brackets at the end become marks, a keyword its letter, and
any other name a class. -/
theorem sourceName_lossless :
    (∀ d e : Descriptor, d.Plain → e.Plain → d.sourceName = e.sourceName → d = e) ∧
    (∀ d : Descriptor, ofSourceName d.sourceName = d ↔ d.Plain) ∧
    (∀ (p : Primitive) (n : Nat),
      (ofSourceName (p.keyword ++ brackets n)).chars = List.replicate n '[' ++ [p.letter]) ∧
    (∀ (name : String) (n : Nat), ¬ ['[', ']'] <:+ name.toList →
      (∀ p : Primitive, name ≠ p.keyword) →
      (ofSourceName (name ++ brackets n)).chars =
        List.replicate n '[' ++ 'L' :: ((slashed name).toList ++ [';'])) := by
  refine ⟨fun d e => Plain.sourceName_inj, ?_, ?_, ?_⟩
  · intro d
    constructor
    · intro back
      rw [← back]
      exact plain_ofSourceName d.sourceName
    · exact Plain.ofSourceName_sourceName
  · intro p n
    have whole : ¬ ['[', ']'] <:+ p.keyword.toList :=
      Element.sourceName_brackets (e := .primitive p) trivial
    rw [chars_ofSourceName whole, Element.ofSourceName, Primitive.ofKeyword?_keyword]
    rfl
  · intro name n whole other
    rw [chars_ofSourceName whole, Element.ofSourceName, Primitive.ofKeyword?_eq_none other]
    rfl

/-- A class name may look like an array inside, and only a whole keyword is taken for one. -/
theorem sourceName_lossless_inner_brackets :
    let d : Descriptor := ⟨"[La/int[];;"⟩
    let e : Descriptor := ⟨"[[La/int;"⟩
    let k : Descriptor := ⟨"Lint;"⟩
    d.Plain ∧ e.Plain ∧ ofSourceName d.sourceName = d ∧ d.sourceName ≠ e.sourceName ∧
      ofSourceName k.sourceName ≠ k ∧
      (ofSourceName ("int" ++ brackets 2)).chars = ['[', '[', 'I'] ∧
      (ofSourceName ("a.b c" ++ brackets 1)).chars = "[La/b c;".toList := by
  intro d e k
  obtain ⟨apart, back, lettered, named⟩ := sourceName_lossless
  have hd : d.Plain := by decide
  have he : e.Plain := by decide
  refine ⟨hd, he, (back d).mpr hd, ?_, ?_, lettered .int 2, ?_⟩
  · intro same
    exact absurd (apart d e hd he same) (by decide)
  · intro same
    exact absurd ((back k).mp same) (by decide)
  · rw [named "a.b c" 1 (by decide) (by decide), toList_slashed]
    decide

end Descriptor

end DexMethod
