import TypeSchema.Proofs.Generation.Step
import TypeSchema.Proofs.OrderedMap

/-!
# The image of a type

What a schema looks like, said without a generator. `Depicts` relates a type to its image: a
descriptor of each kind has one form of schema, the parts have theirs inside, and so on as far as the
type unfolds. It says where descriptions stand, too. A field has the text that its object has for
it, before any that its type has by itself; an object that is nobody's described field has its own
description; nothing else has one.

* `Depicts.unique`: a type has one image at most.
* `depicts_of_made` is the step: what the generator makes of a descriptor is its image, if what it
  makes of the parts is theirs. Here the names of an object's fields have to be distinct, as a map
  keeps only one property of a name.
* `schema_depicts` is the run, by induction on the levels.
-/

namespace TypeSchema

/-! ### Images -/

section

variable {Ref : Type} (g : Graph Ref) (docs : DocRegistry)

/-- Must the field be there? It must if it has no default and its values are never absent. -/
def Graph.mandatory (field : Element Ref) : Bool :=
  !field.optional && !(g.node field.target).nullable

/-- Is the schema the image of a type in a place for which the text is given, if any? -/
inductive Depicts : Option String → Ref → Schema → Prop where
  /-- Texts and characters are texts. -/
  | text {d : Option String} {r : Ref}
      (hkind : (g.node r).kind = .primitive .string ∨ (g.node r).kind = .primitive .char) :
      Depicts d r (.string d none)
  /-- Truth values are truth values. -/
  | truth {d : Option String} {r : Ref} (hkind : (g.node r).kind = .primitive .boolean) :
      Depicts d r (.boolean d)
  /-- Numbers of all widths are numbers. -/
  | number {d : Option String} {r : Ref} {type : Primitive}
      (hkind : (g.node r).kind = .primitive type) (hnumeric : type.isNumeric = true) :
      Depicts d r (.number d)
  /-- A list or set is an array of images of its item. -/
  | items {d : Option String} {r : Ref} {item : Element Ref} {image : Schema}
      (hkind : (g.node r).kind = .list ∨ (g.node r).kind = .set)
      (helements : (g.node r).elements = [item]) (hitem : Depicts none item.target image) :
      Depicts d r (.array d image)
  /-- A map is an object of which only the other properties are described, by the image of its
  value. -/
  | values {d : Option String} {r : Ref} {key value : Element Ref} {image : Schema}
      (hkind : (g.node r).kind = .map) (helements : (g.node r).elements = [key, value])
      (hvalue : Depicts none value.target image) :
      Depicts d r (.object d none [] (some image))
  /-- An enumeration is one of its names. -/
  | names {d : Option String} {r : Ref} {values : List String}
      (hkind : (g.node r).kind = .enumeration values) : Depicts d r (.string d (some values))
  /-- A value of open shape is an object of which nothing is said. -/
  | openShape {d : Option String} {r : Ref} (hkind : (g.node r).kind = .polymorphic) :
      Depicts d r (.object d none [] none)
  /-- An object has a property for each field, in order: the image of the field's type in a place
  for which the object may have a text. Its own description stands unless the place has a text. -/
  | fields {d : Option String} {r : Ref} {image : Element Ref → Schema}
      (hkind : (g.node r).kind = .object)
      (hfields : ∀ field ∈ (g.node r).elements,
        Depicts (docs.field? (g.identity r) field.name) field.target (image field)) :
      Depicts d r
        (.object (d.or (docs.description? (g.identity r)))
          (some ((g.node r).elements.map fun field => (field.name, image field)))
          (((g.node r).elements.filter g.mandatory).map Element.name) none)

end

variable {Ref : Type} {g : Graph Ref} {docs : DocRegistry}

/-- **A type has one image at most** in a place. -/
theorem Depicts.unique {d : Option String} {r : Ref} {image other : Schema}
    (h : Depicts g docs d r image) (h' : Depicts g docs d r other) : image = other := by
  induction h generalizing other with
  | text hkind | truth hkind | number hkind hnumeric | names hkind | openShape hkind =>
    cases h' <;> grind [Primitive.isNumeric]
  | items hkind helements _ ih =>
    cases h' with
    | items _ helements' hitem' =>
      cases helements.symm.trans helements'
      rw [ih hitem']
    | _ => grind
  | values hkind helements _ ih =>
    cases h' with
    | values _ helements' hvalue' =>
      cases helements.symm.trans helements'
      rw [ih hvalue']
    | _ => grind
  | @fields d r image hkind _ ih =>
    cases h' with
    | @fields _ _ image' _ hfields' =>
      have hproperties : (g.node r).elements.map (fun field => (field.name, image field)) =
          (g.node r).elements.map fun field => (field.name, image' field) :=
        List.map_congr_left fun field hfield => by rw [ih field hfield (hfields' field hfield)]
      rw [hproperties]
    | _ => grind

/-- The image in a place with a text is the image with that text for its description. -/
theorem Depicts.withDescription {r : Ref} {image : Schema} (h : Depicts g docs none r image)
    (text : String) : Depicts g docs (some text) r (image.withDescription text) := by
  cases h with
  | text hkind => exact .text hkind
  | truth hkind => exact .truth hkind
  | number hkind hnumeric => exact .number hkind hnumeric
  | items hkind helements hitem => exact .items hkind helements hitem
  | values hkind helements hvalue => exact .values hkind helements hvalue
  | names hkind => exact .names hkind
  | openShape hkind => exact .openShape hkind
  | fields hkind hfields => exact .fields hkind hfields

namespace Generator

/-! ### The fields of an object -/

/-- The schema of a field: that of its type, with the text that its object has for it. -/
def described (text : Option String) (schema : Schema) : Schema :=
  match text with
  | none => schema
  | some text => schema.withDescription text

/-- A description over the image is depicted as well. -/
theorem depicts_described {r : Ref} {image : Schema} (h : Depicts g docs none r image)
    (text : Option String) : Depicts g docs text r (described text image) := by
  cases text with
  | none => exact h
  | some text => exact h.withDescription text

/-- A field with a new name comes last, and is required if it is mandatory. -/
theorem addField_of_new {text : Option String} {field : Element Ref} {schema : Schema}
    {fields : Fields} (hproperties : field.name ∉ fields.properties.map Prod.fst)
    (hrequired : field.name ∉ fields.required) :
    addField text field (g.node field.target).nullable schema fields =
      { properties := fields.properties ++ [(field.name, described text schema)]
        required := fields.required ++ if g.mandatory field then [field.name] else [] } := by
  refine (Fields.mk.injEq ..).mpr ⟨putEntry_of_not_mem hproperties, ?_⟩
  show (if field.optional || (g.node field.target).nullable then fields.required
    else addName field.name fields.required) = _
  rw [addName_of_not_mem hrequired, Graph.mandatory]
  cases field.optional <;> cases (g.node field.target).nullable <;> simp

/-- Fields with distinct names come one after the other, and the mandatory ones are required. -/
theorem fieldsOf_of_nodup {identity : String} {shape : Ref → Schema} {elements : List (Element Ref)}
    {fields : Fields} (hnodup : (elements.map Element.name).Nodup)
    (hproperties : ∀ field ∈ elements, field.name ∉ fields.properties.map Prod.fst)
    (hrequired : ∀ field ∈ elements, field.name ∉ fields.required) :
    fieldsOf g docs identity shape elements fields =
      { properties := fields.properties ++ elements.map fun field =>
          (field.name, described (docs.field? identity field.name) (shape field.target))
        required := fields.required ++ (elements.filter g.mandatory).map Element.name } := by
  induction elements generalizing fields with
  | nil => simp [fieldsOf]
  | cons field rest ih =>
    obtain ⟨hnew, hnodup⟩ := List.nodup_cons.1 hnodup
    have hne : ∀ other ∈ rest, other.name ≠ field.name := fun other hother heq =>
      hnew (heq ▸ List.mem_map_of_mem hother)
    show fieldsOf g docs identity shape rest (addField _ field _ _ fields) = _
    rw [addField_of_new (hproperties field List.mem_cons_self)
      (hrequired field List.mem_cons_self), ih hnodup]
    · cases hmandatory : g.mandatory field <;> simp [hmandatory]
    · intro other hother hmem
      simp only [List.map_append, List.mem_append, List.map_cons, List.map_nil,
        List.mem_singleton] at hmem
      rcases hmem with hmem | hmem
      · exact hproperties other (List.mem_cons_of_mem _ hother) hmem
      · exact hne other hother hmem
    · intro other hother hmem
      rcases List.mem_append.1 hmem with hmem | hmem
      · exact hrequired other (List.mem_cons_of_mem _ hother) hmem
      · split at hmem
        · exact hne other hother (List.mem_singleton.1 hmem)
        · exact absurd hmem List.not_mem_nil

/-! ### A step and a run -/

/-- **A step makes the image** of a descriptor from those of its parts. -/
theorem depicts_of_made {schemaOf : List String → Ref → Attempt SchemaError Schema}
    {path : List String} {r : Ref} {schema : Schema} (h : Made g docs schemaOf path r schema)
    (hnames : (g.node r).kind = .object → (g.node r).elementNames.Nodup)
    (hparts : ∀ s ∈ g.parts r, ∀ path part, (schemaOf path s).result = .ok part →
      Depicts g docs none s part) : Depicts g docs none r schema := by
  cases h with
  | @plain type hkind =>
    cases type with
    | string => exact .text (.inl hkind)
    | char => exact .text (.inr hkind)
    | boolean => exact .truth hkind
    | byte | short | int | long | float | double => exact .number hkind rfl
  | names hkind => exact .names hkind
  | openShape hkind => exact .openShape hkind
  | items hkind helements hpart =>
    have hmem := Graph.parts_of_item hkind helements
    exact .items hkind helements (hparts _ (by simp [hmem]) _ _ hpart)
  | values hkind helements hpart =>
    have hmem := Graph.parts_of_value hkind helements
    exact .values hkind helements (hparts _ (by simp [hmem]) _ _ hpart)
  | @fields shape hkind _ hfields =>
    rw [fieldsOf_of_nodup (hnames hkind) (by simp) (by simp)]
    simp only [List.nil_append]
    have himages : ∀ field ∈ (g.node r).elements, Depicts g docs
        (docs.field? (g.identity r) field.name) field.target
        (described (docs.field? (g.identity r) field.name) (shape field.target)) := by
      intro field hfield
      refine depicts_described (hparts _ ?_ _ _ (hfields field hfield)) _
      rw [Graph.parts_of_object hkind]
      exact List.mem_map_of_mem hfield
    exact .fields hkind himages

/-- **A run makes the image**, from any level downwards. -/
theorem schemaAt_depicts {maxDepth levels : Nat} {path : List String} {r : Ref} {schema : Schema}
    (hnames : ∀ s, g.Reaches r s → (g.node s).kind = .object → (g.node s).elementNames.Nodup)
    (h : (schemaAt g docs maxDepth levels path r).result = .ok schema) :
    Depicts g docs none r schema := by
  induction levels generalizing path r schema with
  | zero => cases h
  | succ levels ih =>
    obtain ⟨_, hfewer, hmade⟩ := made_of_schemaAt h
    cases hfewer
    refine depicts_of_made hmade (hnames r (Graph.Reaches.refl r)) fun s hs around part hpart => ?_
    exact ih (fun t ht => hnames t (Graph.Reaches.head hs ht)) hpart

end Generator

/-- **The schema of a type is its image**, and that is the only one it has, if no object below the
type has two fields of one name. -/
theorem Graph.schema_depicts {config : GeneratorConfig} {r : Ref} {schema : Schema}
    (hnames : ∀ s, g.Reaches r s → (g.node s).kind = .object → (g.node s).elementNames.Nodup)
    (h : (g.schema docs config r).result = .ok schema) :
    Depicts g docs none r schema ∧ ∀ other, Depicts g docs none r other → other = schema := by
  have hdepicts : Depicts g docs none r schema := Generator.schemaAt_depicts hnames h
  exact ⟨hdepicts, fun other hother => hother.unique hdepicts⟩

/-! ### An order -/

/-- An order with a customer and a recipient, who are people, a note that may be absent, and tags
with a default. -/
def orderNode : Fin 5 → Node (Fin 5)
  | 0 => { identity := "Order", kind := .object, eligible := true,
           elements := [⟨"customer", false, 1⟩, ⟨"recipient", false, 1⟩, ⟨"note", false, 2⟩,
             ⟨"tags", true, 3⟩] }
  | 1 => { identity := "Person", kind := .object, eligible := true,
           elements := [⟨"name", false, 4⟩] }
  | 2 => { identity := "String", kind := .primitive .string, nullable := true }
  | 3 => .set 4 "String"
  | 4 => .primitive .string

/-- The graph of these types. -/
def order : Graph (Fin 5) := ⟨List.finRange 5, List.mem_finRange, orderNode⟩

/-- Documentation of both objects; the order has a text for one of the people. -/
def orderDocs : DocRegistry where
  entries := .ofList [("Order", .ofList none [("customer", "Who pays")]),
    ("Person", .ofList (some "A person") [("name", "Full name")])]

/-- What is said of a person in an order, with the description for the place. -/
def personImage (text : String) : Schema :=
  .object (some text) (some [("name", .string (some "Full name") none)]) ["name"] none

/-- What is said of an order. -/
def orderImage : Schema :=
  .object none
    (some [("customer", personImage "Who pays"), ("recipient", personImage "A person"),
      ("note", .anyString), ("tags", .arrayOf .anyString)])
    ["customer", "recipient"] none

/-- The customer has the text that the order has for it, the recipient that of people; the note and
the tags are not required. -/
theorem Graph.schema_depicts_order :
    (order.schema orderDocs {} 0).result = .ok orderImage ∧
      Depicts order orderDocs none 0 orderImage ∧
      ∀ other, Depicts order orderDocs none 0 other → other = orderImage := by
  have hnames : ∀ s, (order.node s).kind = .object → (order.node s).elementNames.Nodup := by
    decide
  have hschema : (order.schema orderDocs {} 0).result = .ok orderImage := by cbv
  exact ⟨hschema, Graph.schema_depicts (fun s _ => hnames s) hschema⟩

end TypeSchema
