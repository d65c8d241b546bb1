import TypeSchema.Proofs.Generation.Places

/-!
# Which properties are required

The properties of an object and the names that are required grow side by side while the fields are
read. A name may be declared more than once. Then the property is that of the last field of the name,
whereas a name that is required once stays so: what a field before said of it is not taken back.

* `map_fst_fieldsOf` and `mem_required_fieldsOf` say what the fields of an object come to, for any list
  of fields; `publishes_fieldsOf` puts this together with what is known of the property of a name.
* `Graph.Relaxes` names the objects in which the two part: a field that must be there is declared again,
  the last time so that it need not be. By `Publishes.follows_iff` there are no others.
* `Graph.required_of_contains` says it of every object in a schema.
-/

namespace TypeSchema

variable {Ref : Type} {g : Graph Ref} {docs : DocRegistry}

/-! ### Objects that declare a name more than once -/

namespace Graph

/-- Is the field the last one of its name in the object? -/
def LastField (g : Graph Ref) (s : Ref) (field : Element Ref) : Prop :=
  ∃ before after, (g.node s).elements = before ++ field :: after ∧
    field.name ∉ after.map Element.name

/-- Does a field of the name have to be there? -/
def Demands (g : Graph Ref) (s : Ref) (name : String) : Prop :=
  ∃ field ∈ (g.node s).elements, field.name = name ∧ g.mandatory field = true

/-- Is a name declared by a field that must be there, and by a last one that need not? -/
def Relaxes (g : Graph Ref) (s : Ref) : Prop :=
  ∃ field, g.LastField s field ∧ g.mandatory field = false ∧ g.Demands s field.name

/-- The last field of a name is a field. -/
theorem LastField.mem {s : Ref} {field : Element Ref} (h : g.LastField s field) :
    field ∈ (g.node s).elements := by
  obtain ⟨before, after, helements, -⟩ := h
  simp [helements]

end Graph

namespace Generator

/-! ### What the fields of an object come to -/

section

variable {identity : String} {shape : Ref → Schema}

/-- A field adds its name to those of the properties. -/
theorem map_fst_addField {text : Option String} {field : Element Ref} {nullable : Bool}
    {schema : Schema} {fields : Fields} :
    (addField text field nullable schema fields).properties.map Prod.fst =
      addName field.name (fields.properties.map Prod.fst) := map_fst_putEntry _ _ _

/-- The names of the properties: what was there, and then the names of the fields. -/
theorem map_fst_fieldsOf (elements : List (Element Ref)) (fields : Fields) :
    (fieldsOf g docs identity shape elements fields).properties.map Prod.fst =
      (elements.map Element.name).foldl (fun seen name => addName name seen)
        (fields.properties.map Prod.fst) := by
  induction elements generalizing fields with
  | nil => rfl
  | cons field rest ih =>
    rw [List.map_cons, List.foldl_cons, ← map_fst_addField]
    exact ih _

/-- A field adds its name to those that are required if it must be there. -/
theorem mem_required_addField {text : Option String} {field : Element Ref} {schema : Schema}
    {fields : Fields} {name : String} :
    name ∈ (addField text field (g.node field.target).nullable schema fields).required ↔
      name ∈ fields.required ∨ field.name = name ∧ g.mandatory field = true := by
  show name ∈ (if field.optional || (g.node field.target).nullable then fields.required
    else addName field.name fields.required) ↔ _
  unfold Graph.mandatory
  cases field.optional <;> cases (g.node field.target).nullable <;> simp [mem_addName_iff]

/-- **The names that are required** are those of fields that must be there, wherever these stand. -/
theorem mem_required_fieldsOf {name : String} {elements : List (Element Ref)} {fields : Fields} :
    name ∈ (fieldsOf g docs identity shape elements fields).required ↔
      name ∈ fields.required ∨
        ∃ field ∈ elements, field.name = name ∧ g.mandatory field = true := by
  induction elements generalizing fields with
  | nil => simp [fieldsOf]
  | cons field rest ih =>
    refine ih.trans ?_
    rw [mem_required_addField, or_assoc, List.exists_mem_cons_iff]

end

/-! ### Properties and required names -/

/-- Are these the properties of an object and the names that are required of it? -/
structure Publishes (g : Graph Ref) (docs : DocRegistry) (maxDepth : Nat) (s : Ref)
    (properties : List (String × Schema)) (required : List String) : Prop where
  /-- The properties have the names of the fields, each once, in the order in which they are first
  declared. -/
  names : properties.map Prod.fst = (g.node s).elementNames.eraseDups
  /-- No name has two properties. -/
  nodup : (properties.map Prod.fst).Nodup
  /-- The property of a name has the schema of the type of the last field of the name. -/
  property : ∀ field, g.LastField s field → ∃ schema, properties.lookup field.name = some schema ∧
    MadeIn g docs maxDepth field.target (docs.field? (g.identity s) field.name) schema
  /-- What is required is a property. -/
  subset : ∀ name ∈ required, name ∈ properties.map Prod.fst
  /-- A name is required if one of its fields must be there. -/
  mem_required_iff : ∀ name, name ∈ required ↔ g.Demands s name

/-- **What the fields of an object come to**, if each part has its schema. -/
theorem publishes_fieldsOf {maxDepth : Nat} {s : Ref} {shape : Ref → Schema}
    (hparts : ∀ element ∈ (g.node s).elements, ∃ levels path,
      (schemaAt g docs maxDepth levels path element.target).result = .ok (shape element.target)) :
    Publishes g docs maxDepth s
      (fieldsOf g docs (g.identity s) shape (g.node s).elements {}).properties
      (fieldsOf g docs (g.identity s) shape (g.node s).elements {}).required := by
  have hnames : (fieldsOf g docs (g.identity s) shape (g.node s).elements {}).properties.map Prod.fst =
      (g.node s).elementNames.eraseDups := by
    rw [map_fst_fieldsOf]
    refine (foldl_addName _ _).trans ?_
    simp [Node.elementNames]
  have hrequired : ∀ name,
      name ∈ (fieldsOf g docs (g.identity s) shape (g.node s).elements {}).required ↔
        g.Demands s name := by
    intro name
    rw [mem_required_fieldsOf]
    exact or_iff_right List.not_mem_nil
  refine ⟨hnames, nodup_fieldsOf List.nodup_nil, ?_, ?_, hrequired⟩
  · rintro field ⟨before, after, helements, hlast⟩
    obtain ⟨levels, path, hpart⟩ := hparts field (by simp [helements])
    refine ⟨_, ?_, madeIn_of_schemaAt hpart _⟩
    rw [helements]
    exact lookup_fieldsOf hlast _
  · intro name hname
    obtain ⟨field, hfield, rfl, -⟩ := (hrequired name).1 hname
    rw [hnames, List.mem_eraseDups]
    exact List.mem_map_of_mem hfield

/-- **Required names follow the properties** unless a name is relaxed: a property is required if and only
if the field that it is taken from must be there. -/
theorem Publishes.follows_iff {maxDepth : Nat} {s : Ref} {properties : List (String × Schema)}
    {required : List String} (h : Publishes g docs maxDepth s properties required) :
    (∀ field, g.LastField s field → (field.name ∈ required ↔ g.mandatory field = true)) ↔
      ¬ g.Relaxes s := by
  constructor
  · rintro hfollows ⟨field, hlast, hfree, hdemands⟩
    have hmandatory := (hfollows field hlast).1 ((h.mem_required_iff _).2 hdemands)
    rw [hfree] at hmandatory
    cases hmandatory
  · intro hnot field hlast
    rw [h.mem_required_iff]
    constructor
    · intro hdemands
      by_contra hfree
      exact hnot ⟨field, hlast, Bool.eq_false_iff.2 hfree, hdemands⟩
    · intro hmandatory
      exact ⟨field, hlast.mem, rfl, hmandatory⟩

end Generator

open Generator

/-! ### Objects in a schema -/

/-- A schema for an object is that of a map or of a value of open shape, of which no names are known,
or it has the properties of an object. -/
theorem MadeIn.publishes {maxDepth : Nat} {s : Ref} {place d : Option String}
    {properties : Option (List (String × Schema))} {required : List String}
    {additional : Option Schema}
    (h : MadeIn g docs maxDepth s place (.object d properties required additional)) :
    (properties = none ∧ required = []) ∨
      (g.node s).kind = .object ∧ ∃ entries, properties = some entries ∧
        Publishes g docs maxDepth s entries required := by
  obtain ⟨levels, path, made, hmade, heq⟩ := h
  -- Only fields give an object properties; every other form with names has none.
  cases hmade with
  | @plain type _ => cases type <;> cases place <;> cases heq
  | items | names => cases place <;> cases heq
  | values | openShape =>
    left
    cases place <;> cases heq <;> exact ⟨rfl, rfl⟩
  | @fields shape hkind _ hparts =>
    right
    rw [described_object, Schema.object.injEq] at heq
    obtain ⟨-, rfl, rfl, -⟩ := heq
    exact ⟨hkind, _, rfl, publishes_fieldsOf fun field hfield => ⟨levels, _, hparts field hfield⟩⟩

/-- **The objects in a schema.** Wherever an object stands in a schema, nothing is said of its names, or
it is the image of an object type: its properties are the fields in the order in which their names are
first declared, each with the schema of the last field of the name, and everything that is required is a
property. A property is required if and only if the field that it is taken from must be there, unless
the type relaxes a name. -/
theorem Graph.required_of_contains {config : GeneratorConfig} {r : Ref} {whole : Schema}
    {d : Option String} {properties : Option (List (String × Schema))} {required : List String}
    {additional : Option Schema} (hwhole : (g.schema docs config r).result = .ok whole)
    (hnode : whole.Contains (.object d properties required additional)) :
    (properties = none ∧ required = []) ∨
      ∃ s place entries,
        Placed g docs.field? r whole s place (.object d properties required additional) ∧
          (g.node s).kind = .object ∧ properties = some entries ∧
            Publishes g docs config.maxDepth s entries required ∧
              ((∀ field, g.LastField s field →
                  (field.name ∈ required ↔ g.mandatory field = true)) ↔ ¬ g.Relaxes s) := by
  obtain ⟨s, place, hplaced⟩ := exists_placed_of_contains hwhole hnode
  rcases (hplaced.madeIn hwhole).publishes with hnone | ⟨hkind, entries, hentries, hpublishes⟩
  · exact .inl hnone
  · exact .inr ⟨s, place, entries, hplaced, hkind, hentries, hpublishes, hpublishes.follows_iff⟩

/-! ### A ticket -/

/-- The types that a booking is made of. -/
inductive BookingType where
  | ticket
  | booking
  | text
  | number
  deriving DecidableEq

/-- A ticket whose seat is declared twice, first as a text and last as a number that may be absent; and a
booking, which holds a ticket and declares its date twice, the last time so that it must be there. -/
def bookingNode : BookingType → Node BookingType
  | .ticket => { identity := "Ticket", kind := .object, eligible := true,
                 elements := [⟨"seat", false, .text⟩, ⟨"row", false, .text⟩,
                   ⟨"seat", false, .number⟩] }
  | .booking => { identity := "Booking", kind := .object, eligible := true,
                  elements := [⟨"date", true, .text⟩, ⟨"ticket", false, .ticket⟩,
                    ⟨"date", false, .text⟩] }
  | .text => .primitive .string
  | .number => { Node.primitive .int with nullable := true }

/-- The graph of these types. -/
def bookings : Graph BookingType where
  refs := [.ticket, .booking, .text, .number]
  mem_refs r := by cases r <;> decide
  node := bookingNode

/-- What is said of a ticket. -/
def ticketImage : Schema :=
  .object none (some [("seat", .anyNumber), ("row", .anyString)]) ["seat", "row"] none

/-- What is said of a booking. -/
def bookingImage : Schema :=
  .object none (some [("date", .anyString), ("ticket", ticketImage)]) ["ticket", "date"] none

/-- The date of a booking is required, as the last field of the name must be there. -/
theorem Graph.required_of_contains_booking :
    (bookings.schema .empty {} .booking).result = .ok bookingImage ∧
      bookingImage.Contains bookingImage ∧
      ∃ s place entries,
        Placed bookings DocRegistry.empty.field? .booking bookingImage s place bookingImage ∧
        (bookings.node s).kind = .object ∧
          some [("date", Schema.anyString), ("ticket", ticketImage)] = some entries ∧
            Publishes bookings .empty 64 s entries ["ticket", "date"] ∧
              ((∀ field, bookings.LastField s field →
                  (field.name ∈ ["ticket", "date"] ↔ bookings.mandatory field = true)) ↔
                ¬ bookings.Relaxes s) := by
  have hschema : (bookings.schema .empty {} .booking).result = .ok bookingImage := by cbv
  have hnode : bookingImage.Contains bookingImage := .whole
  exact ⟨hschema, hnode, (Graph.required_of_contains hschema hnode).resolve_left
    fun h => Option.some_ne_none _ h.1⟩

/-- **A seat that may be absent is required.** The property of the seat is taken from the last field of
the name, which need not be there; but the seat is required, as a field before it must be. -/
theorem Graph.required_of_relaxed_seat :
    (bookings.schema .empty {} .ticket).result =
        .ok (.object none (some [("seat", .anyNumber), ("row", .anyString)]) ["seat", "row"] none) ∧
      bookings.LastField .ticket ⟨"seat", false, .number⟩ ∧
      bookings.mandatory ⟨"seat", false, .number⟩ = false := by
  have hlast : bookings.LastField .ticket ⟨"seat", false, .number⟩ :=
    ⟨[⟨"seat", false, .text⟩, ⟨"row", false, .text⟩], [], rfl, by simp⟩
  exact ⟨by cbv, hlast, rfl⟩

end TypeSchema
