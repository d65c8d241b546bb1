import TypeSchema.Proofs.Generation.Image

/-!
# Documentation and structure

What documentation changes in a schema, and what it does not. Two runs over one type with two
registries go the same way; they differ at most in the descriptions that they leave behind.

* `Schema.erase` is a schema without descriptions.
* `Retells` says of a change of schemas that it takes what one registry has to say of an object to
  what another one has. Two changes do: erasing takes any registry to the empty one
  (`retells_erase`), and leaving schemas as they are takes a registry to one with the same entry
  (`retells_id`).
* `schemaOfNode_retold` is the step: if a change takes the schemas of the parts to those of the
  other run, it takes the schema of the descriptor there, too. `schemaAt_retold` is the run, by
  induction on the levels.
* `schema_of_registries` puts the two changes together.
-/

namespace TypeSchema

/-! ### Schemas without descriptions -/

namespace Schema

mutual

/-- The schema without any descriptions. -/
def erase : Schema → Schema
  | .object _ properties required additional =>
    .object none (eraseProperties properties) required (eraseAdditional additional)
  | .string _ values => .string none values
  | .number _ => .number none
  | .boolean _ => .boolean none
  | .array _ items => .array none (erase items)

/-- The properties without descriptions, if they are described at all. -/
def eraseProperties : Option (List (String × Schema)) → Option (List (String × Schema))
  | none => none
  | some properties => some (eraseNamed properties)

/-- The schema of other properties without descriptions. -/
def eraseAdditional : Option Schema → Option Schema
  | none => none
  | some value => some (erase value)

/-- Named schemas without descriptions. -/
def eraseNamed : List (String × Schema) → List (String × Schema)
  | [] => []
  | (name, schema) :: rest => (name, erase schema) :: eraseNamed rest

end

/-- Schemas with names are erased one by one. -/
theorem eraseNamed_eq_map (entries : List (String × Schema)) :
    eraseNamed entries = entries.map fun entry => (entry.1, entry.2.erase) := by
  induction entries with
  | nil => rfl
  | cons entry rest ih => simp only [eraseNamed, List.map_cons, ih]

/-- A description leaves no trace. -/
@[simp] theorem erase_withDescription (text : String) (schema : Schema) :
    (schema.withDescription text).erase = schema.erase := by
  cases schema <;> simp only [withDescription, erase]

/-- Does a change of schemas keep the forms that carry no description of their own? -/
structure Keeps (change : Schema → Schema) : Prop where
  /-- Plain values stay what they are. -/
  plain : ∀ type : Primitive, change type.schema = type.schema
  /-- So do enumerations. -/
  names : ∀ values, change (.stringEnum values) = .stringEnum values
  /-- So do values of open shape. -/
  openShape : change .anyObject = .anyObject
  /-- A list is changed in its item. -/
  items : ∀ item, change (.arrayOf item) = .arrayOf (change item)
  /-- A map is changed in its value. -/
  values : ∀ value, change (.mapOf value) = .mapOf (change value)

/-- Erasing descriptions keeps everything else. -/
theorem keeps_erase : Keeps erase where
  plain type := by cases type <;> rfl
  names _ := rfl
  openShape := rfl
  items _ := rfl
  values _ := rfl

/-- Changing nothing keeps everything. -/
@[simp] theorem keeps_id : Keeps id := ⟨fun _ => rfl, fun _ => rfl, rfl, fun _ => rfl, fun _ => rfl⟩

end Schema

namespace Attempt

/-- Two attempts in turn, seen through changes of what they succeed with: if the first ones agree,
and the second ones agree wherever the first one leads to, they agree. -/
theorem result_map_bind {ε α α' β β' : Type} {x : Attempt ε α} {x' : Attempt ε α'}
    {next : α → Attempt ε β} {next' : α' → Attempt ε β'} (change : α → α') {change' : β → β'}
    (hfirst : x.result.map change = x'.result)
    (hnext : ∀ a, x.result = .ok a → (next a).result.map change' = (next' (change a)).result) :
    (x >>= next).result.map change' = (x' >>= next').result := by
  rw [result_bind, result_bind, ← hfirst]
  cases hresult : x.result with
  | error e => rfl
  | ok a => exact hnext a hresult

end Attempt

/-- An entry is changed in its place, whether before or after it is put in. -/
theorem map_putEntry {α β : Type} (f : α → β) (key : String) (value : α)
    (entries : List (String × α)) :
    (putEntry key value entries).map (fun entry => (entry.1, f entry.2)) =
      putEntry key (f value) (entries.map fun entry => (entry.1, f entry.2)) := by
  induction entries with
  | nil => rfl
  | cons entry rest ih =>
    by_cases hkey : entry.1 = key
    · simp [putEntry, hkey]
    · simp [putEntry, hkey, ih]

namespace Generator

open Attempt

variable {Ref : Type} {g : Graph Ref} {docs docs' : DocRegistry} {change : Schema → Schema}

/-! ### What a registry says of an object -/

/-- Does a change of schemas take what one registry says of an object to what the other one says? -/
structure Retells (change : Schema → Schema) (docs docs' : DocRegistry) (identity : String) :
    Prop where
  /-- What is said of a field. -/
  field : ∀ name schema, change (described (docs.field? identity name) schema) =
    described (docs'.field? identity name) (change schema)
  /-- What is said of the object. -/
  object : ∀ properties required,
    change (.object (docs.description? identity) (some properties) required none) =
      .object (docs'.description? identity)
        (some (properties.map fun entry => (entry.1, change entry.2))) required none

/-- Erasing descriptions takes any registry to the empty one. -/
theorem retells_erase (docs : DocRegistry) (identity : String) :
    Retells Schema.erase docs .empty identity where
  field name schema := by
    cases docs.field? identity name with
    | none => rfl
    | some text => exact Schema.erase_withDescription text schema
  object properties required := by
    simp only [Schema.erase, Schema.eraseProperties, Schema.eraseAdditional,
      Schema.eraseNamed_eq_map]
    rfl

/-- Registries with the same entry for an object say the same of it. -/
theorem retells_id {identity : String} (h : docs.get? identity = docs'.get? identity) :
    Retells id docs docs' identity where
  field name schema := by simp [DocRegistry.field?, h]
  object properties required := by simp [DocRegistry.description?, h]

/-! ### A step -/

/-- Fields with changed properties. -/
def Fields.map (change : Schema → Schema) (fields : Fields) : Fields where
  properties := fields.properties.map fun entry => (entry.1, change entry.2)
  required := fields.required

/-- A field is changed in its place, whether before or after it is added. -/
theorem map_addField {identity : String} (h : Retells change docs docs' identity)
    (element : Element Ref) (nullable : Bool) (schema : Schema) (fields : Fields) :
    (addField (docs.field? identity element.name) element nullable schema fields).map change =
      addField (docs'.field? identity element.name) element nullable (change schema)
        (fields.map change) := by
  have hproperty := h.field element.name schema
  simp only [Fields.map, addField, map_putEntry]
  rw [Fields.mk.injEq]
  exact ⟨congrArg (putEntry element.name · _) hproperty, rfl⟩

/-- The fields of types that are told alike are read alike. -/
theorem readFields_retold {schemaOf schemaOf' : Ref → Attempt SchemaError Schema}
    {identity : String} (h : Retells change docs docs' identity) {elements : List (Element Ref)}
    (hparts : ∀ element ∈ elements,
      (schemaOf element.target).result.map change = (schemaOf' element.target).result)
    (fields : Fields) :
    (readFields g docs schemaOf identity elements fields).result.map (Fields.map change) =
      (readFields g docs' schemaOf' identity elements (fields.map change)).result := by
  induction elements generalizing fields with
  | nil => rfl
  | cons element rest ih =>
    refine result_map_bind change (hparts element List.mem_cons_self) ?_
    intro schema _
    rw [← map_addField h]
    exact ih (fun other hother => hparts other (List.mem_cons_of_mem _ hother)) _

/-- The item that the generator looks for is a part. -/
theorem mem_parts_of_item? {r s : Ref} (hkind : (g.node r).kind = .list ∨ (g.node r).kind = .set)
    (h : item? (g.node r) = .ok s) : s ∈ g.parts r := by
  unfold item? at h
  split at h
  · next item hitem =>
    cases h
    rw [Graph.parts_of_item hkind hitem]
    exact List.mem_singleton_self _
  · cases h

/-- So is the value of a map. -/
theorem mem_parts_of_value? {r s : Ref} (hkind : (g.node r).kind = .map)
    (h : value? (g.node r) = .ok s) : s ∈ g.parts r := by
  unfold value? at h
  split at h
  · next key value hpair =>
    cases h
    rw [Graph.parts_of_value hkind hpair]
    exact List.mem_singleton_self _
  · cases h

/-- A container is retold if its part is. -/
theorem container_retold {schemaOf schemaOf' : Ref → Attempt SchemaError Schema}
    {part? : Except SchemaError Ref} {wrap : Schema → Schema}
    (hwrap : ∀ schema, change (wrap schema) = wrap (change schema))
    (hpart : ∀ s, part? = .ok s → (schemaOf s).result.map change = (schemaOf' s).result) :
    Except.map change (result (do return wrap (← schemaOf (← ofExcept part?)))) =
      result (do return wrap (← schemaOf' (← ofExcept part?))) := by
  refine result_map_bind id ?_ ?_
  · cases part? <;> rfl
  · intro s hs
    refine result_map_bind change (hpart s hs) ?_
    intro schema _
    exact congrArg Except.ok (hwrap schema)

section

variable {schemaOf schemaOf' : List String → Ref → Attempt SchemaError Schema}

/-- **A step with two registries.** What a change of schemas does to the parts of a descriptor, it
does to the descriptor: it makes the schema in one registry that in the other, and keeps errors. -/
theorem schemaOfNode_retold (hchange : Schema.Keeps change) {r : Ref}
    (hobject : (g.node r).kind = .object → Retells change docs docs' (g.identity r))
    (hparts : ∀ s ∈ g.parts r, ∀ path,
      (schemaOf path s).result.map change = (schemaOf' path s).result) (path : List String) :
    (schemaOfNode g docs schemaOf path (g.node r)).result.map change =
      (schemaOfNode g docs' schemaOf' path (g.node r)).result := by
  unfold schemaOfNode
  cases hkind : (g.node r).kind with
  | primitive type => exact congrArg Except.ok (hchange.plain type)
  | enumeration values => exact congrArg Except.ok (hchange.names values)
  | polymorphic => exact congrArg Except.ok hchange.openShape
  | contextual => rfl
  | list | set =>
    refine container_retold hchange.items ?_
    intro s hs
    exact hparts s (mem_parts_of_item? (by simp [hkind]) hs) path
  | map =>
    refine container_retold hchange.values ?_
    intro s hs
    exact hparts s (mem_parts_of_value? hkind hs) path
  | object =>
    have hretells := hobject hkind
    by_cases heligible : (g.node r).eligible = true
    · by_cases hinside : (g.node r).identity ∈ path
      · simp [heligible, hinside, Except.map]
      · simp only [heligible, hinside, Bool.not_true, Bool.false_eq_true, if_false]
        have hfields : ∀ element ∈ (g.node r).elements, ∀ path,
            (schemaOf path element.target).result.map change =
              (schemaOf' path element.target).result := by
          intro element helement
          refine hparts element.target ?_
          rw [Graph.parts_of_object hkind]
          exact List.mem_map_of_mem helement
        refine result_map_bind (Fields.map change) (readFields_retold hretells
          (fun element helement => hfields element helement _) {}) ?_
        intro fields _
        exact congrArg Except.ok (hretells.object fields.properties fields.required)
    · simp [heligible, Except.map]

end

/-! ### A run -/

/-- **A run with two registries**, from any level downwards. -/
theorem schemaAt_retold (hchange : Schema.Keeps change) {maxDepth levels : Nat}
    {path : List String} {r : Ref}
    (hobject : ∀ s, g.Reaches r s → (g.node s).kind = .object →
      Retells change docs docs' (g.identity s)) :
    (schemaAt g docs maxDepth levels path r).result.map change =
      (schemaAt g docs' maxDepth levels path r).result := by
  induction levels generalizing path r with
  | zero => rfl
  | succ levels ih =>
    rw [schemaAt, schemaAt, result_bind_of_ok (result_emit _), result_bind_of_ok (result_emit _)]
    refine schemaOfNode_retold hchange (hobject r (Graph.Reaches.refl r)) ?_ path
    intro s hs around
    exact ih fun t ht => hobject t (Graph.Reaches.head hs ht)

end Generator

namespace Graph

variable {Ref : Type} {g : Graph Ref}

/-- Without its descriptions, a schema is the one that is made without documentation. -/
theorem schema_erase (docs : DocRegistry) (config : GeneratorConfig) (r : Ref) :
    (g.schema docs config r).result.map Schema.erase = (g.schema .empty config r).result :=
  Generator.schemaAt_retold Schema.keeps_erase fun s _ _ =>
    Generator.retells_erase docs (g.identity s)

/-- **Documentation never changes structure.** Of any descriptor, valid or not, and with any two
registries, generation fails alike, or it succeeds with schemas that are the same without their
descriptions. If the registries say the same of every object below the type, the schemas are the
same with their descriptions. -/
theorem schema_of_registries (g : Graph Ref) (docs docs' : DocRegistry) (config : GeneratorConfig)
    (r : Ref) :
    ((∃ e, (g.schema docs config r).result = .error e ∧
          (g.schema docs' config r).result = .error e) ∨
        ∃ schema schema', (g.schema docs config r).result = .ok schema ∧
          (g.schema docs' config r).result = .ok schema' ∧ schema.erase = schema'.erase) ∧
      ((∀ s, g.Reaches r s → (g.node s).kind = .object →
          docs.get? (g.identity s) = docs'.get? (g.identity s)) →
        (g.schema docs config r).result = (g.schema docs' config r).result) := by
  constructor
  · have herase : (g.schema docs config r).result.map Schema.erase =
        (g.schema docs' config r).result.map Schema.erase := by
      rw [schema_erase docs, schema_erase docs']
    cases hfirst : (g.schema docs config r).result with
    | error e =>
      cases hsecond : (g.schema docs' config r).result with
      | error e' =>
        rw [hfirst, hsecond] at herase
        cases herase
        exact .inl ⟨e, rfl, rfl⟩
      | ok schema' =>
        rw [hfirst, hsecond] at herase
        cases herase
    | ok schema =>
      cases hsecond : (g.schema docs' config r).result with
      | error e' =>
        rw [hfirst, hsecond] at herase
        cases herase
      | ok schema' =>
        rw [hfirst, hsecond] at herase
        exact .inr ⟨schema, schema', rfl, rfl, Except.ok.inj herase⟩
  · intro hsame
    have hretold : (g.schema docs config r).result.map id = (g.schema docs' config r).result :=
      Generator.schemaAt_retold Schema.keeps_id fun s hs hkind =>
        Generator.retells_id (hsame s hs hkind)
    have hid : ∀ x : Except SchemaError Schema, x.map id = x := by
      intro x
      cases x <;> rfl
    rwa [hid] at hretold

/-- The same documentation of orders and people, and something of texts, which are no objects. -/
def orderRemarks : DocRegistry where
  entries := .ofList [("Order", .ofList none [("customer", "Who pays")]),
    ("String", .ofList (some "A text") [("name", "Its letters")]),
    ("Person", .ofList (some "A person") [("name", "Full name")])]

/-- What is said of texts does not show in an order, which has the schema that it had without; and
without documentation it has the same schema but for the descriptions. -/
theorem schema_of_registries_order :
    (order.schema orderDocs {} 0).result = (order.schema orderRemarks {} 0).result ∧
      ((∃ e, (order.schema orderDocs {} 0).result = .error e ∧
          (order.schema .empty {} 0).result = .error e) ∨
        ∃ schema schema', (order.schema orderDocs {} 0).result = .ok schema ∧
          (order.schema .empty {} 0).result = .ok schema' ∧ schema.erase = schema'.erase) := by
  have hobjects : ∀ s, (order.node s).kind = .object → s = 0 ∨ s = 1 := by decide
  refine ⟨(schema_of_registries order orderDocs orderRemarks {} 0).2 ?_,
    (schema_of_registries order orderDocs .empty {} 0).1⟩
  intro s _ hkind
  rcases hobjects s hkind with rfl | rfl <;> rfl

end Graph

end TypeSchema
