import Mathlib
import TypeSchema.Text.Identifier
import TypeSchema.TypeRef

/-!
# Names and the texts made of them

An identity is a text, and the identity of a container is put together from the identities of its
parts. How much of a type can be read off its identity depends on what may be a name.

* `IsName` says what a name looks like, and `lead` is the part of a text before the first angle
  bracket or comma.
* `TypeRef.WellNamed` holds of the type expressions that source text can give: names are names, and a
  type that is kept as it is written does not begin like a name or a container.
* `TypeRef.form` is the outermost form of a type, in which a plain value and a defined type are both
  names, and `Form.ofIdentity` is what an identity shows of it.
* `listIdentity_injective`, `lead_eq_of_mapIdentity_eq` and their like: containers of one identity
  **have parts of one identity**, but of the keys of maps only the leads are certain.
-/

namespace TypeSchema

/-! ### Names -/

/-- Is the text the name of something: a word, and not a single underscore? -/
def IsName (text : String) : Prop :=
  text ≠ "" ∧ text ≠ "_" ∧ text.toList.all Text.isIdentifierContinue = true

instance : DecidablePred IsName := fun _ => inferInstanceAs (Decidable (_ ∧ _ ∧ _))

/-- Is the character neither an angle bracket that opens nor a comma? -/
def isLeading (c : Char) : Bool := c != '<' && c != ','

/-- The part of a text before the first angle bracket or comma. -/
def lead (text : String) : String := String.ofList (text.toList.takeWhile isLeading)

/-- What goes on with an identifier goes on with the first word of an identity. -/
theorem isLeading_of_isIdentifierContinue {c : Char} (h : Text.isIdentifierContinue c = true) :
    isLeading c = true := by
  have hangle : c ≠ '<' := by
    rintro rfl
    exact absurd h (by decide)
  have hcomma : c ≠ ',' := by
    rintro rfl
    exact absurd h (by decide)
  simp [isLeading, hangle, hcomma]

/-- A name is all lead. -/
theorem lead_of_isName {name : String} (h : IsName name) : lead name = name := by
  have hall : name.toList.takeWhile isLeading = name.toList :=
    List.takeWhile_eq_self_iff.2 fun c hc =>
      isLeading_of_isIdentifierContinue (List.all_eq_true.1 h.2.2 c hc)
  rw [lead, hall, String.ofList_toList]

/-- What follows an angle bracket or a comma does not matter. -/
theorem takeWhile_isLeading_append (text : List Char) {c : Char} (hc : isLeading c = false)
    (rest : List Char) :
    (text ++ c :: rest).takeWhile isLeading = text.takeWhile isLeading := by
  rw [List.takeWhile_append]
  split
  · next hall =>
    rw [List.takeWhile_cons_of_neg (by simp [hc]), List.append_nil]
    exact ((List.takeWhile_prefix _).eq_of_length hall).symm
  · rfl

/-- The identity of a list begins with the word for lists. -/
@[simp, grind =]
theorem lead_listIdentity (item : String) : lead (Node.listIdentity item) = "List" := by
  simp [lead, Node.listIdentity, isLeading]

/-- The identity of a set begins with the word for sets. -/
@[simp, grind =]
theorem lead_setIdentity (item : String) : lead (Node.setIdentity item) = "Set" := by
  simp [lead, Node.setIdentity, isLeading]

/-- The identity of a map begins with the word for maps. -/
@[simp, grind =]
theorem lead_mapIdentity (key value : String) : lead (Node.mapIdentity key value) = "Map" := by
  simp [lead, Node.mapIdentity, isLeading]

/-- A text with an angle bracket or a comma is no name. -/
theorem not_isName_of_mem {text : String} {c : Char} (hmem : c ∈ text.toList)
    (hc : isLeading c = false) : ¬ IsName text := by
  intro hname
  have hall := isLeading_of_isIdentifierContinue (List.all_eq_true.1 hname.2.2 c hmem)
  rw [hc] at hall
  cases hall

/-- Plain values are called by names. -/
@[simp] theorem isName_name (p : Primitive) : IsName p.name := by
  cases p <;> decide

/-- No two sorts of plain values share a name. -/
theorem Primitive.name_injective : Function.Injective Primitive.name := by
  intro p q h
  cases p <;> cases q <;> first | rfl | exact absurd h (by decide)

/-! ### Identities of containers -/

/-- Lists of one identity have items of one identity. -/
theorem listIdentity_injective : Function.Injective Node.listIdentity := by
  intro a b h
  unfold Node.listIdentity at h
  rw [String.append_left_inj, String.append_right_inj] at h
  exact h

/-- Sets of one identity have items of one identity. -/
theorem setIdentity_injective : Function.Injective Node.setIdentity := by
  intro a b h
  unfold Node.setIdentity at h
  rw [String.append_left_inj, String.append_right_inj] at h
  exact h

/-- Maps with one identity have keys with one lead: the key ends where a comma follows. -/
theorem lead_eq_of_mapIdentity_eq {key value key' value' : String}
    (h : Node.mapIdentity key value = Node.mapIdentity key' value') : lead key = lead key' := by
  have hcut : ∀ text rest : List Char,
      (text ++ (", ".toList ++ rest)).takeWhile isLeading = text.takeWhile isLeading :=
    fun text _ => takeWhile_isLeading_append text rfl _
  have hchars := congrArg String.toList h
  simp only [Node.mapIdentity, String.toList_append, List.append_assoc] at hchars
  have hlead := congrArg (List.takeWhile isLeading) (List.append_cancel_left hchars)
  rw [hcut, hcut] at hlead
  rw [lead, lead, hlead]

/-- Maps with one identity and one identity of keys have one identity of values. -/
theorem value_eq_of_mapIdentity_eq {key value value' : String}
    (h : Node.mapIdentity key value = Node.mapIdentity key value') : value = value' := by
  unfold Node.mapIdentity at h
  rw [String.append_left_inj, String.append_right_inj] at h
  exact h

/-! ### Type expressions that source text can give -/

namespace TypeRef

/-- The type expression without the outermost marks that a value may be absent. -/
def core : TypeRef → TypeRef
  | option inner => core inner
  | t => t

/-- Are the names in it names, and does nothing that is kept as it is written begin like a name or
a container? -/
def WellNamed : TypeRef → Prop
  | primitive _ => True
  | option inner => WellNamed inner
  | list item => WellNamed item
  | set item => WellNamed item
  | map key value => WellNamed key ∧ WellNamed value
  | named name => IsName name
  | unsupported text => ¬ IsName (lead text)

instance decidableWellNamed : DecidablePred WellNamed
  | primitive _ => inferInstanceAs (Decidable True)
  | option inner => decidableWellNamed inner
  | list item => decidableWellNamed item
  | set item => decidableWellNamed item
  | map key value =>
    have := decidableWellNamed key
    have := decidableWellNamed value
    inferInstanceAs (Decidable (_ ∧ _))
  | named name => inferInstanceAs (Decidable (IsName name))
  | unsupported text => inferInstanceAs (Decidable (¬ IsName (lead text)))

/-- What a well-named option may hold is well named. -/
theorem WellNamed.core {t : TypeRef} (h : t.WellNamed) : t.core.WellNamed := by
  induction t with
  | option inner ih => exact ih h
  | primitive | list | set | map | named | unsupported => exact h

/-- What a type expression is written with is well named if it is. -/
theorem WellNamed.of_mem_parts {t u : TypeRef} (h : t.WellNamed) (hu : u ∈ t.parts) :
    u.WellNamed := by
  induction t with
  | primitive | named | unsupported => rw [List.mem_singleton.1 hu]; exact h
  | option inner ih | list item ih | set item ih =>
    rcases List.mem_cons.1 hu with rfl | hu
    · exact h
    · exact ih h hu
  | map key value ihk ihv =>
    rcases List.mem_cons.1 hu with rfl | hu
    · exact h
    · rcases List.mem_append.1 hu with hu | hu
      · exact ihk h.1 hu
      · exact ihv h.2 hu

/-- The outermost form of a type expression, as far as its identity can show it. -/
inductive Form where
  /-- A name: a plain value or a defined type. -/
  | name
  /-- A list. -/
  | list
  /-- A set. -/
  | set
  /-- A map. -/
  | map
  /-- A type that is kept as it is written. -/
  | text
  deriving Repr, DecidableEq

/-- The form of a type expression. -/
def form : TypeRef → Form
  | primitive _ | named _ => .name
  | option inner => form inner
  | list _ => .list
  | set _ => .set
  | map _ _ => .map
  | unsupported _ => .text

/-- The form that an identity shows. -/
def Form.ofIdentity (identity : String) : Form :=
  if IsName identity then .name
  else if lead identity = "List" then .list
  else if lead identity = "Set" then .set
  else if lead identity = "Map" then .map
  else .text

/-- What is under the marks of a type expression of a given form. -/
theorem core_of_form (t : TypeRef) :
    match t.form with
    | .name => (∃ p, t.core = primitive p) ∨ ∃ name, t.core = named name
    | .list => ∃ item, t.core = list item
    | .set => ∃ item, t.core = set item
    | .map => ∃ key value, t.core = map key value
    | .text => ∃ text, t.core = unsupported text := by
  induction t with
  | option inner ih => exact ih
  | primitive p => exact .inl ⟨p, rfl⟩
  | named name => exact .inr ⟨name, rfl⟩
  | list item | set item => exact ⟨item, rfl⟩
  | map key value => exact ⟨key, value, rfl⟩
  | unsupported text => exact ⟨text, rfl⟩

end TypeRef

end TypeSchema
