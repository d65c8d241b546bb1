import TypeSchema.Proofs.Generation.Image

/-!
# Places in a schema

A type inside another one is written out wherever it is met: as the item of a list, as the value of
a map, as a field. `Placed` relates a type inside another one to the schema that is found in such a
place, and to the text that the object around has for it. It takes the schema as it is, and says
nothing of how it came about.

* `Placed.madeIn`: in every place there is what a run of the generator makes of the type, with the
  text for the place, if there is one, as its description.
* `exists_placed_of_contains`: there is nothing else in a schema.
* `description_of_placed` and `object_of_placed`: **the descriptions in a place**.
-/

namespace TypeSchema

/-! ### What is found in a schema -/

/-- Is a schema found in another one, at any depth? -/
inductive Schema.Contains (whole : Schema) : Schema → Prop where
  /-- The schema itself. -/
  | whole : Contains whole whole
  /-- The schema of a property. -/
  | property {d : Option String} {properties : List (String × Schema)} {required : List String}
      {additional : Option Schema} {name : String} {part : Schema}
      (h : Contains whole (.object d (some properties) required additional))
      (hmem : (name, part) ∈ properties) : Contains whole part
  /-- The schema of other properties. -/
  | additional {d : Option String} {properties : Option (List (String × Schema))}
      {required : List String} {part : Schema}
      (h : Contains whole (.object d properties required (some part))) : Contains whole part
  /-- The schema of items. -/
  | items {d : Option String} {part : Schema} (h : Contains whole (.array d part)) :
      Contains whole part

section

variable {Ref : Type} (g : Graph Ref) (text : String → String → Option String) (r : Ref)
  (whole : Schema)

/-- Is a type met in a place of the schema of `r`, with a text for the place, and what schema is
found there? A field has the text that its object has for it, given by the object's identity and the
field's name; other places have none. Of several fields of one name, only the last has a place. -/
inductive Placed : Ref → Option String → Schema → Prop where
  /-- The type itself. -/
  | root : Placed r none whole
  /-- The item of a list or set. -/
  | item {s : Ref} {place d : Option String} {item : Element Ref} {part : Schema}
      (h : Placed s place (.array d part))
      (hkind : (g.node s).kind = .list ∨ (g.node s).kind = .set)
      (helements : (g.node s).elements = [item]) : Placed item.target none part
  /-- The value of a map. -/
  | value {s : Ref} {place d : Option String} {properties : Option (List (String × Schema))}
      {required : List String} {key value : Element Ref} {part : Schema}
      (h : Placed s place (.object d properties required (some part)))
      (hkind : (g.node s).kind = .map) (helements : (g.node s).elements = [key, value]) :
      Placed value.target none part
  /-- A field of an object. -/
  | field {s : Ref} {place d : Option String} {properties : List (String × Schema)}
      {required : List String} {additional : Option Schema} {before after : List (Element Ref)}
      {field : Element Ref} {part : Schema}
      (h : Placed s place (.object d (some properties) required additional))
      (hkind : (g.node s).kind = .object)
      (helements : (g.node s).elements = before ++ field :: after)
      (hlast : field.name ∉ after.map Element.name)
      (hproperty : properties.lookup field.name = some part) :
      Placed field.target (text (g.identity s) field.name) part

end

variable {Ref : Type} {g : Graph Ref} {docs : DocRegistry}

/-- Of the elements with a name, one is the last. -/
theorem exists_last_of_mem {name : String} {elements : List (Element Ref)}
    (h : name ∈ elements.map Element.name) :
    ∃ before field after, elements = before ++ field :: after ∧ field.name = name ∧
      name ∉ after.map Element.name := by
  induction elements with
  | nil => exact absurd h List.not_mem_nil
  | cons first rest ih =>
    by_cases hrest : name ∈ rest.map Element.name
    · obtain ⟨before, field, after, rfl, hname, hlast⟩ := ih hrest
      exact ⟨first :: before, field, after, rfl, hname, hlast⟩
    · have hfirst : name = first.name := (List.mem_cons.1 h).resolve_right hrest
      exact ⟨[], first, rest, rfl, hfirst.symm, hrest⟩

namespace Generator

/-! ### The schema of a field -/

/-- A text for the place comes before the description of the schema. -/
@[simp] theorem description_described (text : Option String) (schema : Schema) :
    (described text schema).description = text.or schema.description := by
  cases text with
  | none => rfl
  | some text => cases schema <;> rfl

/-- An object with a description over its own. -/
@[simp]
theorem described_object (text d : Option String) (properties : Option (List (String × Schema)))
    (required : List String) (additional : Option Schema) :
    described text (.object d properties required additional) =
      .object (text.or d) properties required additional := by
  cases text <;> rfl

/-- An array with a description over its own. -/
@[simp] theorem described_array (text d : Option String) (items : Schema) :
    described text (.array d items) = .array (text.or d) items := by
  cases text <;> rfl

section

variable {identity : String} {shape : Ref → Schema}

/-- Fields of other names leave a property as it is. -/
theorem lookup_fieldsOf_of_not_mem {name : String} {elements : List (Element Ref)}
    (h : name ∉ elements.map Element.name) (fields : Fields) :
    (fieldsOf g docs identity shape elements fields).properties.lookup name =
      fields.properties.lookup name := by
  induction elements generalizing fields with
  | nil => rfl
  | cons element rest ih =>
    have hne : name ≠ element.name := fun heq => h (heq ▸ List.mem_cons_self)
    have hrest : name ∉ rest.map Element.name := fun hmem => h (List.mem_cons_of_mem _ hmem)
    exact (ih hrest _).trans (lookup_putEntry_of_ne hne _ _)

/-- **The property of a name** is that of the last field of the name: the schema of its type, with
the text for the field. -/
theorem lookup_fieldsOf {before after : List (Element Ref)} {field : Element Ref}
    (hlast : field.name ∉ after.map Element.name) (fields : Fields) :
    (fieldsOf g docs identity shape (before ++ field :: after) fields).properties.lookup field.name =
      some (described (docs.field? identity field.name) (shape field.target)) := by
  rw [fieldsOf, List.foldl_append, List.foldl_cons]
  exact (lookup_fieldsOf_of_not_mem hlast _).trans (lookup_putEntry_self _ _ _)

/-- The properties have the names of the fields. -/
theorem mem_map_fst_fieldsOf {name : String} {elements : List (Element Ref)} {fields : Fields}
    (h : name ∈ (fieldsOf g docs identity shape elements fields).properties.map Prod.fst) :
    name ∈ fields.properties.map Prod.fst ∨ name ∈ elements.map Element.name := by
  induction elements generalizing fields with
  | nil => exact .inl h
  | cons element rest ih =>
    obtain h | h := ih h
    · obtain ⟨property, hproperty, rfl⟩ := List.mem_map.1 h
      obtain rfl | hproperty := mem_putEntry hproperty
      · exact .inr List.mem_cons_self
      · exact .inl (List.mem_map_of_mem hproperty)
    · exact .inr (List.mem_cons_of_mem _ h)

/-- No name has two properties. -/
theorem nodup_fieldsOf {elements : List (Element Ref)} {fields : Fields}
    (h : (fields.properties.map Prod.fst).Nodup) :
    ((fieldsOf g docs identity shape elements fields).properties.map Prod.fst).Nodup := by
  induction elements generalizing fields with
  | nil => exact h
  | cons element rest ih => exact ih (nodup_putEntry _ _ h)

/-- Every property is that of a last field of a name. -/
theorem exists_last_of_property {name : String} {part : Schema} {elements : List (Element Ref)}
    (h : (name, part) ∈ (fieldsOf g docs identity shape elements {}).properties) :
    ∃ before field after, elements = before ++ field :: after ∧
      field.name ∉ after.map Element.name ∧
      (fieldsOf g docs identity shape elements {}).properties.lookup field.name = some part := by
  have hname : name ∈ elements.map Element.name :=
    (mem_map_fst_fieldsOf (List.mem_map_of_mem h)).resolve_left List.not_mem_nil
  obtain ⟨before, field, after, helements, rfl, hlast⟩ := exists_last_of_mem hname
  exact ⟨before, field, after, helements, hlast, lookup_of_mem (nodup_fieldsOf List.nodup_nil) h⟩

end

/-! ### Own descriptions -/

/-- The description that a type has by itself. Only an object has one. -/
def ownText? (g : Graph Ref) (docs : DocRegistry) (r : Ref) : Option String :=
  if (g.node r).kind = .object then docs.description? (g.identity r) else none

/-- A step gives a schema the description that its type has by itself. -/
theorem Made.description {schemaOf : List String → Ref → Attempt SchemaError Schema}
    {path : List String} {r : Ref} {schema : Schema} (h : Made g docs schemaOf path r schema) :
    schema.description = ownText? g docs r := by
  unfold ownText?
  cases h with
  | @plain type hkind =>
    rw [if_neg (by simp [hkind])]
    cases type <;> rfl
  | items hkind =>
    rw [if_neg (by rcases hkind with hkind | hkind <;> simp [hkind])]
    rfl
  | values hkind | names hkind | openShape hkind =>
    rw [if_neg (by simp [hkind])]
    rfl
  | fields hkind => exact (if_pos hkind).symm

end Generator

open Generator

/-! ### Places -/

/-- Is the schema in a place what a run makes of the type, with the text for the place? -/
def MadeIn (g : Graph Ref) (docs : DocRegistry) (maxDepth : Nat) (s : Ref) (place : Option String)
    (schema : Schema) : Prop :=
  ∃ levels path made,
    Made g docs (schemaAt g docs maxDepth levels) path s made ∧ schema = described place made

/-- A run makes the schema in the place that it is put in. -/
theorem madeIn_of_schemaAt {maxDepth levels : Nat} {path : List String} {r : Ref} {schema : Schema}
    (h : (schemaAt g docs maxDepth levels path r).result = .ok schema) (place : Option String) :
    MadeIn g docs maxDepth r place (described place schema) := by
  obtain ⟨fewer, -, hmade⟩ := made_of_schemaAt h
  exact ⟨fewer, path, schema, hmade, rfl⟩

section

variable {maxDepth : Nat} {s : Ref} {place d : Option String} {part : Schema}

/-- **The item in a place** is in a place of its own. -/
theorem MadeIn.item {item : Element Ref} (h : MadeIn g docs maxDepth s place (.array d part))
    (hkind : (g.node s).kind = .list ∨ (g.node s).kind = .set)
    (helements : (g.node s).elements = [item]) : MadeIn g docs maxDepth item.target none part := by
  obtain ⟨levels, path, made, hmade, heq⟩ := h
  cases hmade with
  | @items other inner _ hother hpart =>
    rw [Schema.arrayOf, described_array] at heq
    cases heq
    cases helements.symm.trans hother
    exact madeIn_of_schemaAt hpart none
  | _ => grind

/-- **The value of a map in a place** is in a place of its own. -/
theorem MadeIn.value {properties : Option (List (String × Schema))} {required : List String}
    {key value : Element Ref}
    (h : MadeIn g docs maxDepth s place (.object d properties required (some part)))
    (hkind : (g.node s).kind = .map) (helements : (g.node s).elements = [key, value]) :
    MadeIn g docs maxDepth value.target none part := by
  obtain ⟨levels, path, made, hmade, heq⟩ := h
  cases hmade with
  | @values _ other inner _ hother hpart =>
    rw [Schema.mapOf, described_object] at heq
    cases heq
    cases helements.symm.trans hother
    exact madeIn_of_schemaAt hpart none
  | _ => grind

/-- Only a list or set has items. -/
theorem MadeIn.elements_of_items (h : MadeIn g docs maxDepth s place (.array d part)) :
    ((g.node s).kind = .list ∨ (g.node s).kind = .set) ∧
      ∃ item, (g.node s).elements = [item] := by
  obtain ⟨levels, path, made, hmade, heq⟩ := h
  cases hmade with
  | items hkind helements _ => exact ⟨hkind, _, helements⟩
  | @plain type _ => cases type <;> cases place <;> cases heq
  | values | names | openShape | fields => cases place <;> cases heq

/-- Only a map has other properties. -/
theorem MadeIn.elements_of_additional {properties : Option (List (String × Schema))}
    {required : List String}
    (h : MadeIn g docs maxDepth s place (.object d properties required (some part))) :
    (g.node s).kind = .map ∧ ∃ key value, (g.node s).elements = [key, value] := by
  obtain ⟨levels, path, made, hmade, heq⟩ := h
  cases hmade with
  | values hkind helements _ => exact ⟨hkind, _, _, helements⟩
  | @plain type _ => cases type <;> cases place <;> cases heq
  | items | names | openShape | fields => cases place <;> cases heq

/-- Only an object has properties of its own. -/
theorem MadeIn.kind_of_properties {properties : List (String × Schema)} {required : List String}
    {additional : Option Schema}
    (h : MadeIn g docs maxDepth s place (.object d (some properties) required additional)) :
    (g.node s).kind = .object := by
  obtain ⟨levels, path, made, hmade, heq⟩ := h
  cases hmade with
  | fields hkind => exact hkind
  | @plain type _ => cases type <;> cases place <;> cases heq
  | items | values | names | openShape => cases place <;> cases heq

/-- **The properties of an object in a place**: what its fields come to, and each of these has its
schema. -/
theorem MadeIn.fields {schema : Schema} (h : MadeIn g docs maxDepth s place schema)
    (hkind : (g.node s).kind = .object) :
    ∃ shape : Ref → Schema,
      (∀ element ∈ (g.node s).elements, ∃ levels path,
        (schemaAt g docs maxDepth levels path element.target).result =
          .ok (shape element.target)) ∧
      schema = .object (place.or (docs.description? (g.identity s)))
        (some (fieldsOf g docs (g.identity s) shape (g.node s).elements {}).properties)
        (fieldsOf g docs (g.identity s) shape (g.node s).elements {}).required none := by
  obtain ⟨levels, path, made, hmade, rfl⟩ := h
  cases hmade with
  | @fields shape _ _ hparts =>
    refine ⟨shape, fun element helement => ⟨levels, _, hparts element helement⟩, ?_⟩
    exact described_object _ _ _ _ _
  | _ => grind

/-- **A field in a place** is in a place of its own, with the text that the object has for it. -/
theorem MadeIn.field {properties : List (String × Schema)} {required : List String}
    {additional : Option Schema} {before after : List (Element Ref)} {field : Element Ref}
    (h : MadeIn g docs maxDepth s place (.object d (some properties) required additional))
    (hkind : (g.node s).kind = .object)
    (helements : (g.node s).elements = before ++ field :: after)
    (hlast : field.name ∉ after.map Element.name)
    (hproperty : properties.lookup field.name = some part) :
    MadeIn g docs maxDepth field.target (docs.field? (g.identity s) field.name) part := by
  obtain ⟨shape, hparts, heq⟩ := h.fields hkind
  cases heq
  rw [helements, lookup_fieldsOf hlast] at hproperty
  cases hproperty
  obtain ⟨levels, path, hpart⟩ := hparts field (by simp [helements])
  exact madeIn_of_schemaAt hpart _

end

section

variable {config : GeneratorConfig} {r s : Ref} {whole schema : Schema} {place : Option String}

/-- **In every place** of a schema there is what a run makes of the type. -/
theorem Placed.madeIn (hwhole : (g.schema docs config r).result = .ok whole)
    (h : Placed g docs.field? r whole s place schema) :
    MadeIn g docs config.maxDepth s place schema := by
  induction h with
  | root => exact madeIn_of_schemaAt hwhole none
  | item _ hkind helements ih => exact ih.item hkind helements
  | value _ hkind helements ih => exact ih.value hkind helements
  | field _ hkind helements hlast hproperty ih => exact ih.field hkind helements hlast hproperty

/-- **Nothing else is in a schema**: what is found in it is in the place of a type. -/
theorem exists_placed_of_contains (hwhole : (g.schema docs config r).result = .ok whole)
    (h : whole.Contains schema) : ∃ s place, Placed g docs.field? r whole s place schema := by
  induction h with
  | whole => exact ⟨r, none, .root⟩
  | @property d properties required additional name part _ hmem ih =>
    obtain ⟨s, place, hplaced⟩ := ih
    have hmade := hplaced.madeIn hwhole
    have hkind := hmade.kind_of_properties
    obtain ⟨shape, -, heq⟩ := hmade.fields hkind
    cases heq
    obtain ⟨before, field, after, helements, hlast, hproperty⟩ := exists_last_of_property hmem
    exact ⟨_, _, hplaced.field hkind helements hlast hproperty⟩
  | additional _ ih =>
    obtain ⟨s, place, hplaced⟩ := ih
    obtain ⟨hkind, key, value, helements⟩ := (hplaced.madeIn hwhole).elements_of_additional
    exact ⟨_, _, hplaced.value hkind helements⟩
  | items _ ih =>
    obtain ⟨s, place, hplaced⟩ := ih
    obtain ⟨hkind, item, helements⟩ := (hplaced.madeIn hwhole).elements_of_items
    exact ⟨_, _, hplaced.item hkind helements⟩

/-- **The description in a place** is the text for the place or else what the type has by itself. -/
theorem description_of_placed (hwhole : (g.schema docs config r).result = .ok whole)
    (h : Placed g docs.field? r whole s place schema) :
    schema.description = place.or (ownText? g docs s) := by
  obtain ⟨levels, path, made, hmade, rfl⟩ := h.madeIn hwhole
  rw [description_described, hmade.description]

/-- **An object in a place** has all texts that there are for its fields, as the descriptions of its
properties. -/
theorem object_of_placed (hwhole : (g.schema docs config r).result = .ok whole)
    (h : Placed g docs.field? r whole s place schema) (hkind : (g.node s).kind = .object) :
    ∃ properties required,
      schema = .object (place.or (docs.description? (g.identity s))) (some properties) required
        none ∧
      ∀ name ∈ (g.node s).elementNames, ∃ property, properties.lookup name = some property ∧
        ∀ text, docs.field? (g.identity s) name = some text → property.description = some text := by
  obtain ⟨shape, -, heq⟩ := (h.madeIn hwhole).fields hkind
  refine ⟨_, _, heq, fun name hname => ?_⟩
  obtain ⟨before, field, after, helements, rfl, hlast⟩ := exists_last_of_mem hname
  rw [helements]
  refine ⟨_, lookup_fieldsOf hlast _, fun text htext => ?_⟩
  rw [description_described, htext]
  rfl

end

end TypeSchema
