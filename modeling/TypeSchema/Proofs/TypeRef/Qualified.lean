import TypeSchema.Proofs.TypeRef.Identity

/-!
# Types with qualified names

A qualified name says where a type is defined: a name, a double colon, and more. No plain value and no
container is called like that, and so identities tell types apart that can be mistaken for each other
where names are bare.

* `IsQualified` says what a qualified name looks like, and `TypeRef.Qualified` holds of the type
  expressions with such names.
* `kind_eq_of_identity_eq` and `signature_eq_of_identity_eq`: qualified types with one identity **look
  the same**.
* `faithful_of_qualified`: so the graph of such types is faithful, without further conditions.
* `map_val_parts_graph` names the type expressions one step below a type in such a graph.
-/

namespace TypeSchema

/-! ### Names -/

/-- Does the text begin with a name and a double colon? -/
def IsQualified (text : String) : Prop :=
  ∃ first rest : String, IsName first ∧ text = first ++ "::" ++ rest

/-- A qualified name does not begin like a plain value or a container. -/
theorem not_isName_lead_of_isQualified {text : String} (h : IsQualified text) :
    ¬ IsName (lead text) := by
  obtain ⟨first, rest, hfirst, rfl⟩ := h
  have hall : ∀ c ∈ first.toList, isLeading c = true := fun c hc =>
    isLeading_of_isIdentifierContinue (List.all_eq_true.1 hfirst.2.2 c hc)
  have hcolon : ':' ∈ (lead (first ++ "::" ++ rest)).toList := by
    have hchars : (first ++ "::" ++ rest).toList =
        first.toList ++ ':' :: ':' :: rest.toList := by simp
    rw [lead, String.toList_ofList, hchars, List.takeWhile_append_of_pos hall,
      List.takeWhile_cons_of_pos (by decide)]
    exact List.mem_append_right _ List.mem_cons_self
  intro hname
  have hword := List.all_eq_true.1 hname.2.2 ':' hcolon
  exact absurd hword (by decide)

namespace TypeRef

/-- Are the names in the type expression qualified, and is everything in it understood? -/
def Qualified : TypeRef → Prop
  | primitive _ => True
  | option inner => Qualified inner
  | list item => Qualified item
  | set item => Qualified item
  | map key value => Qualified key ∧ Qualified value
  | named name => IsQualified name
  | unsupported _ => False

/-- What a qualified option may hold is qualified. -/
theorem Qualified.core {t : TypeRef} (h : t.Qualified) : t.core.Qualified := by
  induction t with
  | option inner ih => exact ih h
  | primitive | list | set | map | named | unsupported => exact h

/-- The parts of a qualified type are qualified. -/
theorem Qualified.of_mem_parts {t u : TypeRef} (h : t.Qualified) (hu : u ∈ t.parts) :
    u.Qualified := by
  induction t with
  | primitive | named | unsupported => rw [List.mem_singleton.1 hu]; exact h
  | option inner ih | list item ih | set item ih =>
    rcases List.mem_cons.1 hu with rfl | hu
    · exact h
    · exact ih h hu
  | map key value ihk ihv =>
    rcases List.mem_cons.1 hu with rfl | hu
    · exact h
    · rcases List.mem_append.1 hu with hu | hu
      · exact ihk h.1 hu
      · exact ihv h.2 hu

/-- The outermost form of a qualified type expression, in which a plain value is a name and a defined
type is not. -/
def qualifiedForm : TypeRef → Form
  | primitive _ => .name
  | option inner => qualifiedForm inner
  | list _ => .list
  | set _ => .set
  | map _ _ => .map
  | named _ | unsupported _ => .text

/-- What is under the marks of a qualified type expression of a given form. -/
theorem Qualified.core_of_qualifiedForm {t : TypeRef} (h : t.Qualified) :
    match t.qualifiedForm with
    | .name => ∃ p, t.core = primitive p
    | .list => ∃ item, t.core = list item
    | .set => ∃ item, t.core = set item
    | .map => ∃ key value, t.core = map key value
    | .text => ∃ name, t.core = named name := by
  induction t with
  | option inner ih => exact ih h
  | primitive p => exact ⟨p, rfl⟩
  | list item | set item => exact ⟨item, rfl⟩
  | map key value => exact ⟨key, value, rfl⟩
  | named name => exact ⟨name, rfl⟩
  | unsupported => exact h.elim

end TypeRef

namespace Definitions

open TypeRef

variable {defs : Definitions}

/-! ### Types with one identity -/

/-- A text that does not begin like a name shows no other form. -/
theorem ofIdentity_eq_text {text : String} (h : ¬ IsName (lead text)) :
    Form.ofIdentity text = .text := by
  have hlead : ∀ name, IsName name → lead text ≠ name := fun name hname heq => h (heq ▸ hname)
  have hname : ¬ IsName text := fun hname => hlead text hname (lead_of_isName hname)
  simp [Form.ofIdentity, hname, hlead "List" (by decide), hlead "Set" (by decide),
    hlead "Map" (by decide)]

/-- **The identity of a qualified type expression shows its form.** -/
theorem qualifiedForm_identity (hkeyed : defs.Keyed) {t : TypeRef} (ht : t.Qualified) :
    Form.ofIdentity (defs.identity t) = t.qualifiedForm := by
  induction t with
  | option inner ih => exact ih ht
  | named name =>
    rw [identity_named hkeyed]
    exact ofIdentity_eq_text (not_isName_lead_of_isQualified ht)
  | primitive p => exact form_identity hkeyed (t := .primitive p) trivial
  | list item | set item | map key value =>
    -- The form of a container shows whatever its parts are called.
    rw [Form.ofIdentity, if_neg (not_isName_of_mem (c := '<') ?_ rfl)]
    · simp [identity_list, identity_set, identity_map, lead_listIdentity, lead_setIdentity,
        lead_mapIdentity, qualifiedForm]
    · simp [identity_list, identity_set, identity_map, Node.listIdentity, Node.setIdentity,
        Node.mapIdentity]
  | unsupported => exact ht.elim

/-- **Qualified types with one identity have one kind.** -/
theorem kind_eq_of_identity_eq (hkeyed : defs.Keyed) {t u : TypeRef} (ht : t.Qualified)
    (hu : u.Qualified) (h : defs.identity t = defs.identity u) :
    (defs.node t).kind = (defs.node u).kind := by
  have hform : t.qualifiedForm = u.qualifiedForm := by
    rw [← qualifiedForm_identity hkeyed ht, h, qualifiedForm_identity hkeyed hu]
  have htcore := ht.core_of_qualifiedForm
  have hucore := hu.core_of_qualifiedForm
  rw [hform] at htcore
  rw [← kind_core t, ← kind_core u]
  rw [← identity_core t, ← identity_core u] at h
  cases hf : u.qualifiedForm <;> simp only [hf] at htcore hucore
  case name =>
    obtain ⟨p, hp⟩ := htcore
    obtain ⟨q, hq⟩ := hucore
    rw [hp, hq] at h
    rw [hp, hq, Primitive.name_injective h]
  case list | set =>
    obtain ⟨a, ha⟩ := htcore
    obtain ⟨b, hb⟩ := hucore
    rw [ha, hb]
    rfl
  case map =>
    obtain ⟨a, v, ha⟩ := htcore
    obtain ⟨b, w, hb⟩ := hucore
    rw [ha, hb]
    rfl
  case text =>
    obtain ⟨name, hname⟩ := htcore
    obtain ⟨other, hother⟩ := hucore
    rw [hname, hother, identity_named hkeyed, identity_named hkeyed] at h
    rw [hname, hother, h]

/-- A key whose identity begins as that of a text is a text. -/
theorem identity_eq_string_of_lead_eq (hkeyed : defs.Keyed) {t : TypeRef} (ht : t.Qualified)
    (h : lead (defs.identity t) = "String") : defs.identity t = "String" := by
  have hcore := ht.core_of_qualifiedForm
  rw [← identity_core] at h ⊢
  cases hf : t.qualifiedForm <;> simp only [hf] at hcore
  case name =>
    obtain ⟨p, hp⟩ := hcore
    rw [hp] at h ⊢
    rw [← h]
    exact (lead_of_isName (isName_name p)).symm
  case list =>
    obtain ⟨item, hitem⟩ := hcore
    rw [hitem, identity_list, lead_listIdentity] at h
    exact absurd h (by decide)
  case set =>
    obtain ⟨item, hitem⟩ := hcore
    rw [hitem, identity_set, lead_setIdentity] at h
    exact absurd h (by decide)
  case map =>
    obtain ⟨key, value, hmap⟩ := hcore
    rw [hmap, identity_map, lead_mapIdentity] at h
    exact absurd h (by decide)
  case text =>
    obtain ⟨name, hname⟩ := hcore
    have hqualified : IsQualified name := by
      have hwell := ht.core
      rw [hname] at hwell
      exact hwell
    rw [hname, identity_named hkeyed] at h
    exact absurd (h ▸ by decide : IsName (lead name)) (not_isName_lead_of_isQualified hqualified)

/-- Maps from texts with one identity look the same. -/
theorem signature_map_eq (hkeyed : defs.Keyed) {a v b w : TypeRef} (ha : a.Qualified)
    (hv : v.Qualified) (hb : b.Qualified) (hw : w.Qualified)
    (htext : (defs.node a).kind = .primitive .string)
    (h : defs.identity (map a v) = defs.identity (map b w)) :
    defs.signature (map a v) = defs.signature (map b w) := by
  have hida : defs.identity a = "String" := by
    rw [← identity_core, core_of_isPrimitive htext]
    rfl
  have hlead : lead (defs.identity b) = "String" := by
    have hkeys : lead (defs.identity a) = lead (defs.identity b) := lead_eq_of_mapIdentity_eq h
    rw [← hkeys, hida]
    exact lead_of_isName (by decide)
  have hkey : defs.identity a = defs.identity b :=
    hida.trans (identity_eq_string_of_lead_eq hkeyed hb hlead).symm
  rw [identity_map, identity_map, hkey] at h
  have hvalue : defs.identity v = defs.identity w := value_eq_of_mapIdentity_eq h
  rw [signature_map, signature_map, kind_eq_of_identity_eq hkeyed ha hb hkey, hkey,
    kind_eq_of_identity_eq hkeyed hv hw hvalue, hvalue]

/-- **Qualified types with one identity look the same**, if one of them is well formed. -/
theorem signature_eq_of_identity_eq (hkeyed : defs.Keyed) {t u : TypeRef} (ht : t.Qualified)
    (hu : u.Qualified) (htplain : ¬ (defs.node t).kind.isPrimitive = true)
    (hwf : (defs.signature t).WellFormed) (h : defs.identity t = defs.identity u) :
    defs.signature t = defs.signature u := by
  have hform : t.qualifiedForm = u.qualifiedForm := by
    rw [← qualifiedForm_identity hkeyed ht, h, qualifiedForm_identity hkeyed hu]
  have htcore := ht.core_of_qualifiedForm
  have hucore := hu.core_of_qualifiedForm
  have htq := ht.core
  have huq := hu.core
  rw [hform] at htcore
  rw [← kind_core] at htplain
  rw [← signature_core] at hwf
  rw [← identity_core t, ← identity_core u] at h
  rw [← signature_core t, ← signature_core u]
  cases hf : u.qualifiedForm <;> simp only [hf] at htcore hucore
  case name =>
    obtain ⟨p, hp⟩ := htcore
    exact absurd (by rw [hp]; rfl) htplain
  case list =>
    obtain ⟨a, ha⟩ := htcore
    obtain ⟨b, hb⟩ := hucore
    rw [ha] at h htq ⊢
    rw [hb] at h huq ⊢
    have hitem : defs.identity a = defs.identity b := listIdentity_injective h
    have hkind := kind_eq_of_identity_eq hkeyed (t := a) (u := b) htq huq hitem
    rw [signature_list, signature_list, hkind, hitem]
  case set =>
    obtain ⟨a, ha⟩ := htcore
    obtain ⟨b, hb⟩ := hucore
    rw [ha] at h htq ⊢
    rw [hb] at h huq ⊢
    have hitem : defs.identity a = defs.identity b := setIdentity_injective h
    have hkind := kind_eq_of_identity_eq hkeyed (t := a) (u := b) htq huq hitem
    rw [signature_set, signature_set, hkind, hitem]
  case map =>
    obtain ⟨a, v, ha⟩ := htcore
    obtain ⟨b, w, hb⟩ := hucore
    rw [ha] at h htq hwf ⊢
    rw [hb] at h huq ⊢
    exact signature_map_eq hkeyed htq.1 htq.2 huq.1 huq.2 hwf h
  case text =>
    obtain ⟨name, hname⟩ := htcore
    obtain ⟨other, hother⟩ := hucore
    rw [hname, hother, identity_named hkeyed, identity_named hkeyed] at h
    rw [hname, hother, h]

/-! ### The graph of a list of roots -/

variable {roots : List TypeRef}

/-- **A graph of qualified types is faithful.** -/
theorem faithful_of_qualified (hkeyed : defs.Keyed)
    (hqualified : ∀ t ∈ typeRefs defs roots, t.Qualified)
    (starts : List {t : TypeRef // t ∈ typeRefs defs roots}) :
    (defs.graph roots).Faithful starts := by
  intro r s _ _ hrplain _ hid hwf
  rw [Graph.wellFormed_iff_signature, signature_graph] at hwf
  rw [signature_graph, signature_graph]
  exact .inl (signature_eq_of_identity_eq hkeyed (hqualified r.1 r.2) (hqualified s.1 s.2) hrplain
    hwf hid)

variable (defs) in
/-- The type expressions one step below a type expression. -/
def below : TypeRef → List TypeRef
  | .option inner => below inner
  | .list item | .set item => [item]
  | .map _ value => [value]
  | .named name => ((defs.get? name).map Definition.fields).getD [] |>.map FieldDef.type
  | .primitive _ | .unsupported _ => []

/-- Below an option is what is below the type that it may hold. -/
@[simp] theorem below_core (t : TypeRef) : defs.below t.core = defs.below t := by
  induction t with
  | option inner ih => exact ih
  | primitive | list | set | map | named | unsupported => rfl

/-- A type is of one kind in every graph that it is in. -/
theorem kind_graph (r : {t : TypeRef // t ∈ typeRefs defs roots}) :
    ((defs.graph roots).node r).kind = (defs.node r.1.core).kind := (kind_core r.1).symm

/-- A type has the same elements in every graph that it is in. -/
theorem map_val_children_graph (r : {t : TypeRef // t ∈ typeRefs defs roots}) :
    ((defs.graph roots).children r).map Subtype.val =
      (defs.node r.1.core).elements.map Element.target := by
  obtain ⟨absent, hnode⟩ := node_core defs r.1
  have helements : (defs.node r.1).elements = (defs.node r.1.core).elements := by rw [hnode]
  rw [← helements]
  simp [Graph.children, graph, Graph.ofClosed, Function.comp_def]

/-- A type has as many elements in every graph that it is in. -/
theorem length_elements_graph (r : {t : TypeRef // t ∈ typeRefs defs roots}) :
    ((defs.graph roots).node r).elements.length = (defs.node r.1.core).elements.length := by
  have hlength := congrArg List.length (map_val_children_graph r)
  simpa [Graph.children] using hlength

/-- **One step below a type in a graph** are the type expressions below it. -/
theorem map_val_parts_graph (r : {t : TypeRef // t ∈ typeRefs defs roots}) :
    ((defs.graph roots).parts r).map Subtype.val = defs.below r.1 := by
  unfold Graph.parts
  rw [kind_graph, length_elements_graph, ← below_core]
  have hchildren := map_val_children_graph r
  cases hcore : r.1.core with
  | primitive | unsupported => rfl
  | list item | set item =>
    rw [hcore] at hchildren
    exact hchildren
  | map key value =>
    rw [hcore] at hchildren
    show List.map Subtype.val (List.drop 1 _) = [value]
    rw [List.map_drop, hchildren]
    rfl
  | option inner =>
    have hnever : ∀ t inner : TypeRef, t.core ≠ option inner := by
      intro t inner
      induction t with
      | option t ih => exact ih
      | primitive | list | set | map | named | unsupported => exact nofun
    exact absurd hcore (hnever _ _)
  | named name =>
    rw [hcore] at hchildren
    cases hget : defs.get? name with
    | none =>
      have hnode : defs.node (.named name) = .contextual name := by
        simp only [node, nodeNamed, hget]
      simp only [hnode, below, hget]
      rfl
    | some d =>
      have hnode : defs.node (.named name) = d.node := by simp only [node, nodeNamed, hget]
      rw [hnode] at hchildren
      simp only [hnode, below, hget]
      obtain ⟨identity, eligible, shape⟩ := d
      cases shape with
      | object fields =>
        refine hchildren.trans ?_
        simp [Definition.node, Definition.fields, FieldDef.element, Function.comp_def]
      | enumeration | polymorphic | undescribed => rfl

end Definitions

end TypeSchema
