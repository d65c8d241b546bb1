import TypeSchema.Model.Generation
import TypeSchema.Proofs.Generation.Safety
import TypeSchema.Proofs.OrderedMap
import TypeSchema.Proofs.TypeRef.Qualified

/-!
# Which models have schemas

What validation can find wrong with a type that is built from derived models is one thing only: a map
whose keys are no texts. Where there is none, generation fails only at an object inside itself or
because of the depth.

* `Reaches` is the way from a type expression to those that its schema depends on, said of the
  expressions themselves: into containers and wrappers, to the values of maps, and from a model to the
  types of its fields.
* `Stands` relates the types in the graph to the expressions that they stand for. A step between
  expressions is a step in the graph or none at all (`Stands.down`), and a step in the graph is some
  steps between expressions (`Stands.up`).
* `sound_root_iff`: a type is sound if and only if **no map with other keys is reached** from it.
* `schema_of_models` is the verdict.
-/

namespace TypeSchema

namespace TypeExpr

/-- The type under the wrappers that say no more than that a value may be absent. -/
def bare : TypeExpr → TypeExpr
  | container .option inner => bare inner
  | container .box inner => bare inner
  | container .arc inner => bare inner
  | container .rc inner => bare inner
  | t => t

/-- Is the type a map whose keys, wrappers apart, are no texts? -/
def HasForeignKeys : TypeExpr → Prop
  | map _ key _ => key.bare ≠ scalar .string ∧ key.bare ≠ scalar .str
  | _ => False

/-- The models that a type expression names. -/
def modelNames : TypeExpr → List String
  | scalar _ => []
  | container _ inner => inner.modelNames
  | map _ key value => key.modelNames ++ value.modelNames
  | model name => [name]

/-- A map with foreign keys is in no wrapper. -/
theorem bare_of_hasForeignKeys {u : TypeExpr} (h : u.HasForeignKeys) : u.bare = u := by
  cases u with
  | map => rfl
  | scalar | container | model => exact h.elim

/-- What is known of the models that an expression names is known of the parts of the expression's
descriptor. -/
theorem qualified_typeRef {u : TypeExpr} (h : ∀ name ∈ u.modelNames, IsQualified name) :
    u.typeRef.Qualified := by
  induction u with
  | scalar => trivial
  | container c inner ih => cases c <;> exact ih h
  | map _ key value ihk ihv =>
    exact ⟨ihk fun name hname => h name (List.mem_append_left _ hname),
      ihv fun name hname => h name (List.mem_append_right _ hname)⟩
  | model name => exact h name (List.mem_singleton_self name)

end TypeExpr

namespace Models

open TypeExpr

/-! ### The types that a schema depends on -/

/-- The type expressions one step below a type expression. -/
def parts (models : Models) : TypeExpr → List TypeExpr
  | .scalar _ => []
  | .container _ inner => [inner]
  | .map _ _ value => [value]
  | .model name => (((models.get? name).map Model.fields).getD []).map ModelField.type

/-- The way from a type expression to one below it, of any number of steps. -/
def Reaches (models : Models) : TypeExpr → TypeExpr → Prop :=
  Relation.ReflTransGen fun t u => u ∈ models.parts t

/-- Is the type built from models in the table that derive their descriptions, all of them under
qualified names? -/
structure Derived (models : Models) (t : TypeExpr) : Prop where
  /-- Every model derives its description. -/
  derived : ∀ name m, models.get? name = some m →
    ∃ shape docs, m = .derived shape docs ∧ shape ≠ .undescribed
  /-- Its full name is qualified. -/
  qualified : ∀ name m, models.get? name = some m → IsQualified name
  /-- The models that the type names are in the table. -/
  known : ∀ name ∈ t.modelNames, (models.get? name).isSome = true
  /-- So are those that the fields of models name. -/
  closed : ∀ name m, models.get? name = some m → ∀ field ∈ m.fields,
    ∀ other ∈ field.type.modelNames, (models.get? other).isSome = true

variable {models : Models} {t : TypeExpr}

/-- A type reaches what it wraps. -/
@[simp] theorem reaches_bare (u : TypeExpr) : models.Reaches u u.bare := by
  induction u with
  | container c inner ih =>
    cases c with
    | option | box | arc | rc => exact Relation.ReflTransGen.head (List.mem_singleton_self inner) ih
    | vec | vecDeque | slice | hashSet | treeSet | indexSet => exact Relation.ReflTransGen.refl
  | scalar | map | model => exact Relation.ReflTransGen.refl

/-- A step leads from types built from derived models to such types. -/
theorem Derived.of_mem_parts (h : models.Derived t) {u : TypeExpr} (hu : u ∈ models.parts t) :
    models.Derived u := by
  refine ⟨h.derived, h.qualified, fun other hother => ?_, h.closed⟩
  cases t with
  | scalar => exact absurd hu List.not_mem_nil
  | container c inner =>
    rw [List.mem_singleton.1 hu] at hother
    exact h.known other hother
  | map c key value =>
    rw [List.mem_singleton.1 hu] at hother
    exact h.known other (List.mem_append_right _ hother)
  | model name =>
    obtain ⟨field, hfield, rfl⟩ := List.mem_map.1 hu
    cases hget : models.get? name with
    | none =>
      rw [hget] at hfield
      exact absurd hfield List.not_mem_nil
    | some m =>
      rw [hget] at hfield
      exact h.closed name m hget field hfield other hother

/-- Whatever a derived type reaches is derived. -/
@[grind →]
theorem Derived.of_reaches (h : models.Derived t) {u : TypeExpr} (hu : models.Reaches t u) :
    models.Derived u := by
  induction hu with
  | refl => exact h
  | tail _ hstep ih => exact ih.of_mem_parts hstep

/-! ### Definitions of models -/

/-- A model is found under its name, as a definition. -/
theorem get?_definitions (models : Models) (name : String) :
    models.definitions.get? name = (models.get? name).map (Model.definition name) :=
  lookup_map Model.definition name models.entries.entries

/-- Models in the table have qualified names, and stand under them. -/
theorem Derived.keyed (h : models.Derived t) : models.definitions.Keyed := by
  intro name d hd
  rw [get?_definitions] at hd
  obtain ⟨m, hm, rfl⟩ := Option.map_eq_some_iff.1 hd
  obtain ⟨shape, docs, rfl, -⟩ := h.derived name m hm
  rfl

/-- A derived type is written as a qualified one. -/
theorem Derived.qualified_typeRef (h : models.Derived t) : t.typeRef.Qualified := by
  refine TypeExpr.qualified_typeRef fun name hname => ?_
  obtain ⟨m, hm⟩ := Option.isSome_iff_exists.1 (h.known name hname)
  exact h.qualified name m hm

/-- The fields of a definition are those of the model. -/
theorem fields_definition (name : String) (m : Model) :
    (m.definition name).fields.map FieldDef.type = m.fields.map fun field => field.type.typeRef := by
  unfold Model.definition Definition.fields Model.fields
  cases m.shape <;> simp

/-- All types in the graph of a derived one are qualified. -/
theorem Derived.qualified_typeRefs (h : models.Derived t) :
    ∀ u ∈ models.definitions.typeRefs [t.typeRef], u.Qualified := by
  intro u hu
  simp only [Definitions.typeRefs, List.mem_append, List.mem_flatMap] at hu
  rcases hu with ⟨root, hroot, hpart⟩ | ⟨entry, hentry, field, hfield, hpart⟩
  · rw [List.mem_singleton.1 hroot] at hpart
    exact h.qualified_typeRef.of_mem_parts hpart
  · have hget : models.definitions.get? entry.1 = some entry.2 :=
      OrderedMap.get?_eq_some_iff.2 hentry
    rw [get?_definitions] at hget
    obtain ⟨m, hm, hdef⟩ := Option.map_eq_some_iff.1 hget
    have htype : field.type ∈ (m.definition entry.1).fields.map FieldDef.type := by
      rw [hdef]
      exact List.mem_map_of_mem hfield
    rw [fields_definition] at htype
    obtain ⟨modelField, hmem, htype⟩ := List.mem_map.1 htype
    have hfieldtype : models.Derived modelField.type :=
      ⟨h.derived, h.qualified, h.closed entry.1 m hm modelField hmem, h.closed⟩
    rw [← htype] at hpart
    exact hfieldtype.qualified_typeRef.of_mem_parts hpart

/-! ### Types in the graph and the expressions that they stand for -/

/-- A step below an expression stays at the expression's descriptor, if it is into a wrapper, or it is
a step below the descriptor. -/
theorem below_of_mem_parts {u w : TypeExpr} (h : w ∈ models.parts u) :
    w.typeRef.core = u.typeRef.core ∨ w.typeRef ∈ models.definitions.below u.typeRef := by
  cases u with
  | scalar => exact absurd h List.not_mem_nil
  | container c inner =>
    rw [List.mem_singleton.1 h]
    cases c with
    | option | box | arc | rc => exact .inl rfl
    | vec | vecDeque | slice | hashSet | treeSet | indexSet =>
      exact .inr (List.mem_singleton_self _)
  | map c key value =>
    rw [List.mem_singleton.1 h]
    exact .inr (List.mem_singleton_self _)
  | model name =>
    right
    obtain ⟨field, hfield, rfl⟩ := List.mem_map.1 h
    cases hget : models.get? name with
    | none =>
      rw [hget] at hfield
      exact absurd hfield List.not_mem_nil
    | some m =>
      rw [hget] at hfield
      simp only [TypeExpr.typeRef, Definitions.below, get?_definitions, hget, Option.map_some,
        Option.getD_some, fields_definition]
      exact List.mem_map_of_mem hfield

/-- What is a step below the descriptor of an expression is that of an expression below it. -/
theorem exists_of_mem_below {u : TypeExpr} {x : TypeRef}
    (h : x ∈ models.definitions.below u.typeRef) : ∃ w, models.Reaches u w ∧ x = w.typeRef := by
  induction u with
  | scalar => exact absurd h List.not_mem_nil
  | container c inner ih =>
    have hinner : models.Reaches (.container c inner) inner :=
      Relation.ReflTransGen.single (List.mem_singleton_self inner)
    cases c with
    | option | box | arc | rc =>
      obtain ⟨w, hw, hx⟩ := ih h
      exact ⟨w, hinner.trans hw, hx⟩
    | vec | vecDeque | slice | hashSet | treeSet | indexSet =>
      exact ⟨inner, hinner, List.mem_singleton.1 h⟩
  | map c key value =>
    exact ⟨value, Relation.ReflTransGen.single (List.mem_singleton_self value),
      List.mem_singleton.1 h⟩
  | model name =>
    cases hget : models.get? name with
    | none =>
      simp [TypeExpr.typeRef, Definitions.below, get?_definitions, hget] at h
    | some m =>
      simp only [TypeExpr.typeRef, Definitions.below, get?_definitions, hget, Option.map_some,
        Option.getD_some, fields_definition] at h
      obtain ⟨field, hfield, rfl⟩ := List.mem_map.1 h
      refine ⟨field.type, Relation.ReflTransGen.single ?_, rfl⟩
      simp only [parts, hget, Option.map_some, Option.getD_some]
      exact List.mem_map_of_mem hfield

/-- Does the type in the graph stand for the expression, apart from absence? -/
def Stands (r : models.Ref t) (u : TypeExpr) : Prop := r.1.core = u.typeRef.core

/-- The root of the graph stands for the type. -/
theorem stands_root : Stands (models.root t) t := rfl

/-- Below a reference that stands for a type are the types that are written below it. -/
theorem Stands.below_eq {r : models.Ref t} {u : TypeExpr} (h : Stands r u) :
    ((models.graph t).parts r).map Subtype.val = models.definitions.below u.typeRef := by
  rw [← Definitions.below_core, ← h, Definitions.below_core]
  exact Definitions.map_val_parts_graph r

/-- **A step between expressions** is one in the graph, or none at all. -/
theorem Stands.down {r : models.Ref t} {u w : TypeExpr} (h : Stands r u)
    (hw : w ∈ models.parts u) : ∃ s, (models.graph t).Reaches r s ∧ Stands s w := by
  rcases below_of_mem_parts hw with hcore | hbelow
  · exact ⟨r, Graph.Reaches.refl r, Eq.trans h hcore.symm⟩
  · rw [← h.below_eq] at hbelow
    obtain ⟨s, hs, hval⟩ := List.mem_map.1 hbelow
    exact ⟨s, Graph.Reaches.of_mem_parts hs, congrArg TypeRef.core hval⟩

/-- **A step in the graph** is some steps between expressions. -/
theorem Stands.up {r s : models.Ref t} {u : TypeExpr} (h : Stands r u)
    (hs : s ∈ (models.graph t).parts r) : ∃ w, models.Reaches u w ∧ Stands s w := by
  have hbelow : s.1 ∈ models.definitions.below u.typeRef := by
    rw [← h.below_eq]
    exact List.mem_map_of_mem hs
  obtain ⟨w, hw, hval⟩ := exists_of_mem_below hbelow
  exact ⟨w, hw, congrArg TypeRef.core hval⟩

/-- Every expression below the type is stood for below its root. -/
theorem exists_stands_of_reaches {u : TypeExpr} (h : models.Reaches t u) :
    ∃ r, (models.graph t).Reaches (models.root t) r ∧ Stands r u := by
  induction h with
  | refl => exact ⟨models.root t, Graph.Reaches.refl _, stands_root⟩
  | tail _ hstep ih =>
    obtain ⟨r, hr, hstands⟩ := ih
    obtain ⟨s, hs, hstands'⟩ := hstands.down hstep
    exact ⟨s, hr.trans hs, hstands'⟩

/-! ### Well-formed expressions -/

/-- A type is a text if it is one under its wrappers. -/
theorem kind_eq_string_iff (h : models.Derived t) :
    (models.definitions.node t.typeRef).kind = .primitive .string ↔
      t.bare = .scalar .string ∨ t.bare = .scalar .str := by
  induction t with
  | scalar s => cases s <;> simp [TypeExpr.typeRef, Definitions.node, Node.primitive, bare,
      Model.Scalar.primitive]
  | container c inner ih =>
    cases c with
    | option | box | arc | rc => exact ih (h.of_mem_parts (List.mem_singleton_self inner))
    | vec | vecDeque | slice | hashSet | treeSet | indexSet =>
      simp [TypeExpr.typeRef, Model.Container.typeRef, Definitions.node, Node.list, Node.set, bare]
  | map c key value =>
    simp [TypeExpr.typeRef, Definitions.node, Node.map, bare]
  | model name =>
    refine iff_of_false (fun hkind => ?_) (by simp [bare])
    have hcore := Definitions.core_of_isPrimitive hkind
    cases hcore

/-- **An expression's descriptor is well formed** unless the expression, wrappers apart, is a map with
other keys than texts. -/
theorem wellFormed_signature_iff (h : models.Derived t) :
    (models.definitions.signature t.typeRef).WellFormed ↔ ¬ t.bare.HasForeignKeys := by
  induction t with
  | scalar s => exact iff_of_true trivial not_false
  | container c inner ih =>
    have hinner : models.Derived inner := h.of_mem_parts (List.mem_singleton_self inner)
    cases c with
    | option | box | arc | rc => exact ih hinner
    | vec | vecDeque | slice | hashSet | treeSet | indexSet => exact iff_of_true rfl not_false
  | map c key value =>
    have hkey : models.Derived key :=
      ⟨h.derived, h.qualified, fun name hname => h.known name (List.mem_append_left _ hname),
        h.closed⟩
    show (models.definitions.node key.typeRef).kind = .primitive .string ↔ ¬ (_ ∧ _)
    rw [kind_eq_string_iff hkey]
    tauto
  | model name =>
    obtain ⟨m, hm⟩ := Option.isSome_iff_exists.1 (h.known name (List.mem_singleton_self name))
    obtain ⟨shape, docs, rfl, hshape⟩ := h.derived name m hm
    have hnode : models.definitions.node (.named name) =
        ((Model.derived shape docs).definition name).node := by
      simp only [Definitions.node, Definitions.nodeNamed, get?_definitions, hm, Option.map_some]
    refine iff_of_true ?_ not_false
    show (models.definitions.signature (.named name)).WellFormed
    unfold Definitions.signature
    rw [hnode]
    cases shape with
    | object | enumeration => rfl
    | polymorphic => trivial
    | undescribed => exact absurd rfl hshape

/-- **A type is sound if and only if no map with other keys than texts is reached from it.** -/
theorem sound_root_iff (h : models.Derived t) :
    (models.graph t).Sound (models.root t) ↔ ∀ u, models.Reaches t u → ¬ u.HasForeignKeys := by
  have hwf : ∀ r u, Stands r u → models.Derived u →
      ((models.graph t).WellFormed r ↔ ¬ u.bare.HasForeignKeys) := by
    intro r u hstands hu
    rw [← wellFormed_signature_iff hu, Graph.wellFormed_iff_signature]
    show ((models.definitions.graph [t.typeRef]).signature r).WellFormed ↔ _
    rw [Definitions.signature_graph, ← Definitions.signature_core, hstands,
      Definitions.signature_core]
  constructor
  · intro hsound u hu hforeign
    obtain ⟨r, hr, hstands⟩ := exists_stands_of_reaches hu
    refine (hwf r u hstands (h.of_reaches hu)).1 (hsound r hr) ?_
    rwa [bare_of_hasForeignKeys hforeign]
  · intro hnone
    refine Graph.sound_of_closed (S := fun r => ∃ u, models.Reaches t u ∧ Stands r u) ?_
      ⟨t, Relation.ReflTransGen.refl, stands_root⟩
    rintro r ⟨u, hu, hstands⟩
    refine ⟨(hwf r u hstands (h.of_reaches hu)).2 (hnone _ (hu.trans (reaches_bare u))),
      fun s hs => ?_⟩
    obtain ⟨w, hw, hstands'⟩ := hstands.up hs
    exact ⟨w, hu.trans hw, hstands'⟩

/-! ### The verdict -/

/-- What comes of a type is what comes of its validation and then of its generation. -/
theorem result_schema (models : Models) (config : GeneratorConfig) (t : TypeExpr) :
    (models.schema config t).result =
      match ((models.graph t).validate (models.root t)).result with
      | .ok () =>
        ((models.graph t).schema (models.registry t).value config
          (models.root t)).result.mapError .schema
      | .error e => .error (.validation e) := by
  unfold schema
  rw [Attempt.result_bind, Attempt.result_mapError]
  cases ((models.graph t).validate (models.root t)).result with
  | error e => rfl
  | ok =>
    show Attempt.result (Attempt.mapError Failure.schema _) = _
    rw [Attempt.result_mapError]

/-- **Which types have schemas.** A type that is built from derived models fails validation if and only
if a map whose keys are no texts is reached from it, through containers and wrappers, values of maps
and fields. If there is none, it has a schema, or an object lies inside itself, or it is too deep. -/
theorem schema_of_models (h : models.Derived t) (config : GeneratorConfig) :
    ((∃ e, (models.schema config t).result = .error (.validation e)) ↔
        ∃ u, models.Reaches t u ∧ u.HasForeignKeys) ∧
      ((¬ ∃ u, models.Reaches t u ∧ u.HasForeignKeys) →
        (∃ schema, (models.schema config t).result = .ok schema) ∨
          (∃ id, (models.schema config t).result = .error (.schema (.recursiveType id))) ∨
          ∃ id, (models.schema config t).result =
            .error (.schema (.depthExceeded id config.maxDepth))) := by
  let g := models.graph t
  have hfaithful : g.Faithful [models.root t] :=
    Definitions.faithful_of_qualified h.keyed h.qualified_typeRefs _
  have haccepts : (g.validate (models.root t)).result = .ok () ↔
      ¬ ∃ u, models.Reaches t u ∧ u.HasForeignKeys := by
    rw [not_exists]
    simp only [not_and]
    rw [← sound_root_iff h]
    exact Validator.supported_new.accepts_iff hfaithful
      (Graph.reachedFrom_of_mem (List.mem_singleton_self _))
  have hresult := result_schema models config t
  constructor
  · rw [← not_iff_not, ← haccepts, hresult]
    cases ((models.graph t).validate (models.root t)).result with
    | error e => exact iff_of_false (fun hnot => hnot ⟨e, rfl⟩) (by simp)
    | ok =>
      refine iff_of_true ?_ rfl
      rintro ⟨e, herror⟩
      cases hschema : ((models.graph t).schema (models.registry t).value config
        (models.root t)).result <;> simp [hschema, Except.mapError] at herror
  · intro hnone
    have hvalid : ((models.graph t).validate (models.root t)).result = .ok () := haccepts.2 hnone
    have hsound : g.Sound (models.root t) :=
      (Validator.supported_new.accepts_iff hfaithful
        (Graph.reachedFrom_of_mem (List.mem_singleton_self _))).1 hvalid
    rw [hresult, hvalid]
    cases hschema : ((models.graph t).schema (models.registry t).value config
        (models.root t)).result with
    | ok schema => exact .inl ⟨schema, rfl⟩
    | error e =>
      rcases Graph.schema_eq_error_of_sound hsound hschema with ⟨id, rfl⟩ | ⟨id, rfl⟩
      · exact .inr (.inl ⟨id, rfl⟩)
      · exact .inr (.inr ⟨id, rfl⟩)

/-! ### A table of models -/

/-- What is asked of every model can be looked up in the table. -/
theorem derived_of_entries (hknown : ∀ name ∈ t.modelNames, (models.get? name).isSome = true)
    (h : ∀ entry ∈ models.entries.entries,
      (∃ shape docs, entry.2 = .derived shape docs ∧ shape ≠ .undescribed) ∧
        IsQualified entry.1 ∧ ∀ field ∈ entry.2.fields, ∀ other ∈ field.type.modelNames,
          (models.get? other).isSome = true) : models.Derived t where
  derived name m hm := (h (name, m) (OrderedMap.mem_of_get? hm)).1
  qualified name m hm := (h (name, m) (OrderedMap.mem_of_get? hm)).2.1
  known := hknown
  closed name m hm := (h (name, m) (OrderedMap.mem_of_get? hm)).2.2

/-- Trees that contain trees, pages of them with counts by text, and an index of pages with a map by
number inside a map by text. -/
def library : Models where
  entries :=
    { entries :=
        [("app::Tree", .derived (.object
            [{ name := "children", type := .container .vec (.model "app::Tree") }]) .empty),
          ("app::Page<app::Tree>", .derived (.object
            [{ name := "items", type := .container .vec (.model "app::Tree") },
              { name := "counts",
                type := .map .indexMap (.container .option (.container .box (.scalar .str)))
                  (.scalar .u64) }]) .empty),
          ("app::Index", .derived (.object
            [{ name := "first", type := .container .option (.model "app::Page<app::Tree>") },
              { name := "byNumber",
                type := .map .treeMap (.scalar .string)
                  (.map .hashMap (.scalar .u32) (.model "app::Tree")) }]) .empty)]
      nodup := by decide }

/-- All names in the table are qualified, and all that are used are in it. -/
theorem derived_library (hknown : ∀ name ∈ t.modelNames, (library.get? name).isSome = true) :
    library.Derived t := by
  refine derived_of_entries hknown ?_
  show ∀ entry ∈ [_, _, _], _
  simp only [List.forall_mem_cons]
  refine ⟨⟨⟨_, _, rfl, nofun⟩, ⟨"app", "Tree", by decide, by decide⟩, by decide⟩,
    ⟨⟨_, _, rfl, nofun⟩, ⟨"app", "Page<app::Tree>", by decide, by decide⟩, by decide⟩,
    ⟨⟨_, _, rfl, nofun⟩, ⟨"app", "Index", by decide, by decide⟩, by decide⟩,
    fun _ h => absurd h List.not_mem_nil⟩

/-- From pages of trees, only these types are reached. -/
theorem mem_of_reaches_page {u : TypeExpr} (h : library.Reaches (.model "app::Page<app::Tree>") u) :
    u ∈ [.model "app::Page<app::Tree>", .container .vec (.model "app::Tree"), .model "app::Tree",
      .map .indexMap (.container .option (.container .box (.scalar .str))) (.scalar .u64),
      .scalar .u64] := by
  induction h with
  | refl => exact List.mem_cons_self
  | tail _ hstep ih =>
    simp only [List.mem_cons, List.not_mem_nil, or_false] at ih
    rcases ih with rfl | rfl | rfl | rfl | rfl
    · have hfields : library.parts (.model "app::Page<app::Tree>") = [_, _] := rfl
      rw [hfields, List.mem_cons, List.mem_singleton] at hstep
      rcases hstep with rfl | rfl <;> simp
    · simp [List.mem_singleton.1 hstep]
    · simp [List.mem_singleton.1 hstep]
    · simp [List.mem_singleton.1 hstep]
    · exact absurd hstep List.not_mem_nil

/-- Boxes of the index fail validation because of the map by number, two maps and a wrapper away. Of
pages, whose keys are texts that may be absent, nothing can be found wrong but that trees contain
trees. -/
theorem schema_of_models_library :
    (∃ e, (library.schema {} (.container .box (.model "app::Index"))).result =
        .error (.validation e)) ∧
      ((∃ schema, (library.schema {} (.model "app::Page<app::Tree>")).result = .ok schema) ∨
        (∃ id, (library.schema {} (.model "app::Page<app::Tree>")).result =
          .error (.schema (.recursiveType id))) ∨
        ∃ id, (library.schema {} (.model "app::Page<app::Tree>")).result =
          .error (.schema (.depthExceeded id 64))) := by
  have hindex := schema_of_models (derived_library (t := .container .box (.model "app::Index"))
    (by decide)) {}
  have hpage := schema_of_models (derived_library (t := .model "app::Page<app::Tree>")
    (by decide)) {}
  refine ⟨hindex.1.2 ⟨.map .hashMap (.scalar .u32) (.model "app::Tree"), ?_, nofun, nofun⟩,
    hpage.2 ?_⟩
  · have hbox : library.Reaches (.container .box (.model "app::Index")) (.model "app::Index") :=
      .single (List.mem_singleton_self _)
    have hfield : library.Reaches (.model "app::Index") (.map .treeMap (.scalar .string)
        (.map .hashMap (.scalar .u32) (.model "app::Tree"))) :=
      .single (List.mem_cons_of_mem _ (List.mem_singleton_self _))
    exact (hbox.trans hfield).tail (List.mem_singleton_self _)
  · rintro ⟨u, hu, hforeign⟩
    have hmem := mem_of_reaches_page hu
    simp only [List.mem_cons, List.not_mem_nil, or_false] at hmem
    obtain rfl | rfl | rfl | rfl | rfl := hmem
    all_goals simp [HasForeignKeys, bare] at hforeign

end Models

end TypeSchema
