import TypeSchema.Proofs.Batch.Account
import TypeSchema.Proofs.Doc.Fields
import TypeSchema.Proofs.Generation.Places
import TypeSchema.Proofs.Source.Selection

/-!
# Documentation in the schemas of a table

What the doc comments of a type say goes through a registry, which is kept by name, and then through
the generator, which has two places for it at every object.

* `get?_docs`: the registry of a run holds what the table says of each type, `metadata?`, and
  nothing else. `field?_docs` and `description?_docs` are the two ways in which it is read.
* `struct_of_placed` and `description_eq_of_placed`: what a struct has in the places of a schema,
  and what may be in any place.
* `documentation_of_collect` says so of all schemas of a run.
-/

namespace TypeSchema

namespace SourceTable

variable {P : SourceType → Prop} {table : SourceTable} {name : String}

/-! ### What a table says of its types -/

/-- What is said of the type of a name, if it derives a schema and its comments are not refused. -/
def metadata? (table : SourceTable) (name : String) : Option DocMetadata :=
  (table.types.get? name).bind fun t => if t.eligible then t.doc.toOption else none

/-- The text that the type of a name has for a field. -/
def fieldText? (table : SourceTable) (name field : String) : Option String :=
  (table.metadata? name).bind fun doc => doc.field? field

/-- A name has documentation exactly if its type asks for a schema and its comments can be read. -/
theorem metadata?_eq_some_iff {doc : DocMetadata} :
    table.metadata? name = some doc ↔
      ∃ t, table.types.get? name = some t ∧ t.eligible = true ∧ t.doc = .ok doc := by
  unfold metadata?
  rw [Option.bind_eq_some_iff]
  refine exists_congr fun t => and_congr_right fun _ => ?_
  split
  · next heligible => cases t.doc <;> simp [heligible, Except.toOption]
  · next heligible => simp [heligible]

/-- The entry of a type in the documentation, if there is anything to say of it. -/
def docEntry? (t : SourceType) : Option (String × DocMetadata) :=
  match t.doc with
  | .ok doc => if doc.isEmpty then none else some (t.name, doc)
  | .error _ => none

/-- A type has an entry exactly if its comments can be read and say something. -/
theorem docEntry?_eq_some_iff {t : SourceType} {entry : String × DocMetadata} :
    docEntry? t = some entry ↔
      t.name = entry.1 ∧ t.doc = .ok entry.2 ∧ ¬ entry.2.isEmpty = true := by
  unfold docEntry?
  cases t.doc with
  | error e => simp
  | ok doc =>
    by_cases hempty : doc.isEmpty = true
    · simp only [hempty, if_true, reduceCtorEq, Except.ok.injEq, false_iff, not_and, not_not]
      rintro - rfl
      exact hempty
    · simp only [hempty, Bool.false_eq_true, if_false, Option.some.injEq, Except.ok.injEq,
        Prod.ext_iff]
      refine and_congr_right fun _ => ⟨fun h => ⟨h, h ▸ hempty⟩, And.left⟩

/-- Documentation of a new name goes to the end, if there is any. -/
theorem entries_insert_of_new {b : DocRegistry.Builder} {doc : DocMetadata}
    (h : name ∉ b.entries.keys) :
    (b.insert name doc).value.2.entries.entries =
      b.entries.entries ++ if doc.isEmpty then [] else [(name, doc)] := by
  unfold DocRegistry.Builder.insert
  split
  · exact (List.append_nil _).symm
  · exact putEntry_of_not_mem h

/-- **What registration leaves**, if the names are distinct: the entries of the types, in order. -/
theorem entries_registerAll {b : DocRegistry.Builder} {failures : List (String × DocError)}
    {types : List SourceType} (hnodup : (types.map SourceType.name).Nodup)
    (hnew : ∀ t ∈ types, t.name ∉ b.entries.keys) :
    (registerAll b failures types).value.1.entries.entries =
      b.entries.entries ++ types.filterMap docEntry? := by
  induction types generalizing b failures with
  | nil => exact (List.append_nil _).symm
  | cons t rest ih =>
    obtain ⟨hfirst, hnodup⟩ := List.nodup_cons.1 hnodup
    have hrest : ∀ u ∈ rest, u.name ∉ b.entries.keys := fun u hu =>
      hnew u (List.mem_cons_of_mem _ hu)
    rw [List.filterMap_cons, docEntry?, registerAll]
    cases t.doc with
    | error e => exact ih hnodup hrest
    | ok doc =>
      have hentries : (b.insert t.name doc).value.2.entries.entries =
          b.entries.entries ++ if doc.isEmpty then [] else [(t.name, doc)] :=
        entries_insert_of_new (hnew t List.mem_cons_self)
      refine (ih hnodup fun u hu hmem => ?_).trans ?_
      · have hne : u.name ≠ t.name := fun heq => hfirst (heq ▸ List.mem_map_of_mem hu)
        rw [OrderedMap.keys, hentries, List.map_append] at hmem
        rcases List.mem_append.1 hmem with hmem | hmem
        · exact hrest u hu hmem
        · split at hmem
          · exact absurd hmem List.not_mem_nil
          · exact hne (List.mem_singleton.1 hmem)
      · rw [hentries, List.append_assoc]
        by_cases hempty : doc.isEmpty = true <;> simp [hempty]

/-- No two types that derive a schema have one name. -/
theorem AllTypes.nodup_eligibleNames (htypes : table.AllTypes P) : table.eligibleNames.Nodup := by
  have hkeys : table.types.values.map SourceType.name = table.types.keys := by
    rw [OrderedMap.values, OrderedMap.keys, List.map_map]
    exact List.map_congr_left fun entry hentry => (htypes entry hentry).1.symm
  have hnodup : (table.types.values.map SourceType.name).Nodup := hkeys ▸ table.types.nodup
  exact hnodup.sublist (List.filter_sublist.map _)

/-- A type that derives a schema stands under its name. -/
theorem AllTypes.mem_eligibleTypes_iff (htypes : table.AllTypes P) {t : SourceType} :
    t ∈ table.eligibleTypes ↔ table.types.get? t.name = some t ∧ t.eligible = true := by
  rw [eligibleTypes, List.mem_filter, OrderedMap.get?_eq_some_iff]
  refine and_congr_left fun _ => ⟨fun h => ?_, List.mem_map_of_mem⟩
  obtain ⟨entry, hentry, rfl⟩ := List.mem_map.1 h
  rw [← (htypes entry hentry).1]
  exact hentry

/-- **The documentation of a run** is what the table says of its types. -/
theorem get?_docs (htypes : table.AllTypes P) :
    table.docs.get? name = (table.metadata? name).filter fun doc => !doc.isEmpty := by
  have hentries : table.docs.entries.entries = table.eligibleTypes.filterMap docEntry? :=
    entries_registerAll htypes.nodup_eligibleNames fun _ _ => List.not_mem_nil
  refine Option.ext fun doc => ?_
  rw [DocRegistry.get?, OrderedMap.get?_eq_some_iff, hentries, List.mem_filterMap,
    Option.filter_eq_some_iff, metadata?_eq_some_iff]
  simp only [docEntry?_eq_some_iff, htypes.mem_eligibleTypes_iff, Bool.not_eq_true']
  constructor
  · rintro ⟨t, ⟨hget, heligible⟩, rfl, hdoc, hsome⟩
    exact ⟨⟨t, hget, heligible, hdoc⟩, by simpa using hsome⟩
  · rintro ⟨⟨t, hget, heligible, hdoc⟩, hsome⟩
    have hname : t.name = name := (htypes _ (OrderedMap.get?_eq_some_iff.1 hget)).1.symm
    exact ⟨t, ⟨hname ▸ hget, heligible⟩, hname, hdoc, by simpa using hsome⟩

/-- Of documentation that says nothing there is nothing to read. -/
theorem bind_filter_isEmpty {read : DocMetadata → Option String}
    (h : ∀ doc, doc.isEmpty = true → read doc = none) (doc? : Option DocMetadata) :
    (doc?.filter fun doc => !doc.isEmpty).bind read = doc?.bind read := by
  cases doc? with
  | none => rfl
  | some doc =>
    by_cases hempty : doc.isEmpty = true
    · simp [Option.filter, hempty, h doc hempty]
    · simp [Option.filter, hempty]

/-- The registry has the texts of the fields. -/
theorem field?_docs (htypes : table.AllTypes P) : table.docs.field? = table.fieldText? := by
  funext name field
  rw [DocRegistry.field?, get?_docs htypes]
  refine bind_filter_isEmpty (fun doc hempty => ?_) _
  have hfields : doc.fields.entries = [] := List.isEmpty_iff.1 (Bool.and_eq_true_iff.1 hempty).2
  rw [DocMetadata.field?, OrderedMap.get?, hfields]
  rfl

/-- The registry has the descriptions of the types. -/
theorem description?_docs (htypes : table.AllTypes P) (name : String) :
    table.docs.description? name = (table.metadata? name).bind DocMetadata.description := by
  rw [DocRegistry.description?, get?_docs htypes]
  refine bind_filter_isEmpty (fun doc hempty => ?_) _
  simpa using (Bool.and_eq_true_iff.1 hempty).1

/-! ### Structs in the graph of a run -/

variable {names : List String}

section

variable {t : SourceType} {fields : List SourceField}
  {s : {t : TypeRef // t ∈ table.definitions.typeRefs (table.roots names)}}

/-- The descriptor of a type expression that is, but for absence, the name of a type. -/
theorem node_of_core (ht : table.types.get? t.name = some t) (hcore : s.1.core = .named t.name) :
    ∃ absent, table.definitions.node s.1 = { t.definition.node with nullable := absent } := by
  obtain ⟨absent, hnode⟩ := Definitions.node_core table.definitions s.1
  have hdefinition : table.definitions.get? t.name = some t.definition := by
    rw [definitions, OrderedMap.get?_map, ht]
    rfl
  refine ⟨absent, hnode.trans ?_⟩
  rw [hcore, Definitions.node, Definitions.nodeNamed, hdefinition]

/-- A struct is an object, whether it is optional or not. -/
theorem kind_of_core (ht : table.types.get? t.name = some t) (hcore : s.1.core = .named t.name)
    (hshape : t.shape = .object fields) : ((table.graph names).node s).kind = .object := by
  obtain ⟨absent, hnode⟩ := node_of_core ht hcore
  have hkind : ((table.graph names).node s).kind = t.definition.node.kind :=
    congrArg Node.kind hnode
  rw [hkind, Definition.node, SourceType.definition, hshape]

/-- The descriptor of a definition has its fields. -/
@[simp] theorem elementNames_node (d : Definition) :
    d.node.elementNames = d.fields.map FieldDef.name := by
  unfold Definition.node Definition.fields
  cases d.shape with
  | object fields => exact List.map_map
  | enumeration | polymorphic | undescribed => rfl

/-- A struct has its fields, whether it is optional or not. -/
theorem elementNames_of_core (ht : table.types.get? t.name = some t)
    (hcore : s.1.core = .named t.name) :
    ((table.graph names).node s).elementNames = t.fields.map SourceField.name := by
  obtain ⟨absent, hnode⟩ := node_of_core ht hcore
  have hnames : ((table.graph names).node s).elementNames =
      (table.definitions.node s.1).elementNames := by
    show ((table.definitions.node s.1).elements.attach.map _).map _ = _
    rw [List.map_map]
    exact List.attach_map_val (f := Element.name)
  rw [hnames, hnode]
  refine (elementNames_node t.definition).trans ?_
  rw [fields_definition, List.map_map]
  rfl

/-- A type is called by its name, whether it is optional or not. -/
theorem identity_of_core (htypes : table.AllTypes P) (hcore : s.1.core = .named name) :
    (table.graph names).identity s = name := by
  show table.definitions.identity s.1 = name
  rw [← Definitions.identity_core, hcore, Definitions.identity_named htypes.keyed]

end

/-! ### What is published -/

/-- A schema of a run is that of a root, as generation makes it. -/
theorem exists_root_of_get?_collect (htypes : table.AllTypes P) {config : GeneratorConfig}
    {schema : Schema} (h : (table.collect names config).value.schemas.get? name = some schema) :
    ∃ root ∈ table.starts names, root.1 = .named name ∧
      ((table.graph names).schema table.docs config root).result = .ok schema := by
  rw [schemas_collect] at h
  obtain hbefore | ⟨root, hroot, hidentity, hschema⟩ := Batch.exists_of_get?_runFrom h
  · cases hbefore
  obtain ⟨other, -, hother, hidother⟩ := exists_of_mem_starts htypes.keyed hroot
  have hname : other = name := hidother.symm.trans hidentity
  exact ⟨root, hroot, hname ▸ hother, hschema⟩

/-- Is a type one of the table that derives a schema, and is this its documentation? -/
structure Documents (table : SourceTable) (t : SourceType) (doc : DocMetadata) : Prop where
  /-- The type stands under its name, and was not replaced. -/
  get?_eq : table.types.get? t.name = some t
  /-- It derives a schema. -/
  eligible : t.eligible = true
  /-- Its doc comments are not refused. -/
  doc_eq : t.doc = .ok doc

/-- A documented type has its documentation under its name. -/
theorem Documents.metadata?_eq {t : SourceType} {doc : DocMetadata} (h : table.Documents t doc) :
    table.metadata? t.name = some doc :=
  metadata?_eq_some_iff.2 ⟨t, h.get?_eq, h.eligible, h.doc_eq⟩

/-- Behind documentation there is a type that it documents. -/
theorem exists_documents_of_metadata? (htypes : table.AllTypes P) {doc : DocMetadata}
    (h : table.metadata? name = some doc) : ∃ t, t.name = name ∧ table.Documents t doc := by
  obtain ⟨t, hget, heligible, hdoc⟩ := metadata?_eq_some_iff.1 h
  have hname : t.name = name := (htypes _ (OrderedMap.get?_eq_some_iff.1 hget)).1.symm
  exact ⟨t, hname, hname ▸ hget, heligible, hdoc⟩

section

variable {config : GeneratorConfig} {schema part : Schema} {place : Option String}
  {root s : {t : TypeRef // t ∈ table.definitions.typeRefs (table.roots names)}}

/-- **A struct in a place** has the description for the place, or else its own, and the texts for
its fields. -/
theorem struct_of_placed (htypes : table.AllTypes P)
    (hschema : ((table.graph names).schema table.docs config root).result = .ok schema)
    (h : Placed (table.graph names) table.fieldText? root schema s place part) {t : SourceType}
    {fields : List SourceField} {doc : DocMetadata} (ht : table.Documents t doc)
    (hcore : s.1.core = .named t.name) (hshape : t.shape = .object fields) :
    ∃ properties required,
      part = .object (place.or doc.description) (some properties) required none ∧
      ∀ field text, doc.field? field = some text → ∃ property,
        properties.lookup field = some property ∧ property.description = some text := by
  rw [← field?_docs htypes] at h
  obtain ⟨properties, required, heq, hfields⟩ :=
    object_of_placed hschema h (kind_of_core ht.get?_eq hcore hshape)
  rw [identity_of_core htypes hcore, description?_docs htypes, ht.metadata?_eq] at heq
  refine ⟨properties, required, heq, fun field text htext => ?_⟩
  have hcontains : doc.fields.contains field = true := Option.isSome_of_eq_some htext
  have hknown : field ∈ ((table.graph names).node s).elementNames := by
    have hmem := Doc.mem_of_metadata ht.doc_eq hcontains
    rw [List.map_map] at hmem
    rw [elementNames_of_core ht.get?_eq hcore]
    exact hmem
  obtain ⟨property, hproperty, hdescription⟩ := hfields field hknown
  refine ⟨property, hproperty, hdescription text ?_⟩
  rw [field?_docs htypes, fieldText?, identity_of_core htypes hcore, ht.metadata?_eq]
  exact htext

/-- **What has a description** has the one for the place, or is a type that describes itself so. -/
theorem description_eq_of_placed (htypes : table.AllTypes P)
    (hschema : ((table.graph names).schema table.docs config root).result = .ok schema)
    (h : Placed (table.graph names) table.fieldText? root schema s place part) :
    part.description = place ∨ place = none ∧ ∃ t doc, table.Documents t doc ∧
      s.1.core = .named t.name ∧ part.description = doc.description := by
  rw [← field?_docs htypes] at h
  have hdescription := description_of_placed hschema h
  by_cases hkind : ((table.graph names).node s).kind = .object
  · obtain ⟨name, -, hcore, -⟩ := Definitions.exists_core_of_object (t := s.1) hkind
    rw [Generator.ownText?, if_pos hkind, identity_of_core htypes hcore,
      description?_docs htypes] at hdescription
    cases hdoc : table.metadata? name with
    | none =>
      rw [hdoc, Option.bind_none, Option.or_none] at hdescription
      exact .inl hdescription
    | some doc =>
      obtain ⟨t, rfl, ht⟩ := exists_documents_of_metadata? htypes hdoc
      rw [hdoc] at hdescription
      cases place with
      | some text => exact .inl hdescription
      | none => exact .inr ⟨rfl, t, doc, ht, hcore, hdescription⟩
  · rw [Generator.ownText?, if_neg hkind, Option.or_none] at hdescription
    exact .inl hdescription

end

/-- **Documentation is neither lost nor put in a wrong place.** Whatever the types of a table are,
and whichever of them are asked for with whatever limit: the schema under a name is that of the type
of the name, and all that is found in it is in the place of some type. Wherever a struct is met that
derives a schema and whose doc comments are not refused, its fields have the texts that it has for
them, and it has its own description unless the object around has a text for the field that it is
met in. In all other places there is no description but that of the place. -/
theorem documentation_of_collect (types : List SourceType) (names : List String)
    (config : GeneratorConfig) :
    let table := (empty.insertAll types).value
    ∀ name schema, (table.collect names config).value.schemas.get? name = some schema →
      ∃ root ∈ table.starts names, root.1 = .named name ∧
        (∀ part, schema.Contains part → ∃ s place,
          Placed (table.graph names) table.fieldText? root schema s place part) ∧
        ∀ s place part, Placed (table.graph names) table.fieldText? root schema s place part →
          (∀ t fields doc, table.Documents t doc → t.shape = .object fields →
            s.1.core = .named t.name → ∃ properties required,
              part = .object (place.or doc.description) (some properties) required none ∧
              ∀ field text, doc.field? field = some text → ∃ property,
                properties.lookup field = some property ∧ property.description = some text) ∧
          (part.description = place ∨ place = none ∧ ∃ t doc, table.Documents t doc ∧
            s.1.core = .named t.name ∧ part.description = doc.description) := by
  intro table name schema hschema
  have htypes : table.AllTypes fun _ => True := allTypes_empty.insertAll fun _ _ => trivial
  obtain ⟨root, hroot, hname, hmade⟩ := exists_root_of_get?_collect htypes hschema
  refine ⟨root, hroot, hname, fun part hpart => ?_, fun s place part hplaced => ⟨?_, ?_⟩⟩
  · rw [← field?_docs htypes]
    exact exists_placed_of_contains hmade hpart
  · intro t fields doc ht hshape hcore
    exact struct_of_placed htypes hmade hplaced ht hcore hshape
  · exact description_eq_of_placed htypes hmade hplaced

/-- An order with a customer and recipients, who are people. Both types have a description, the
order has a text for the customer, and people have one for their name. -/
def purchases : List SourceType :=
  [{ name := "Order", eligible := true, comment := some "An order @param customer Who pays",
     renamed := false,
     shape := .object
       [plainField "customer" (.named "Person"),
        plainField "recipients" (.list (.named "Person"))] },
   { name := "Person", eligible := true, comment := some "A person", renamed := false,
     shape := .object
       [{ plainField "name" (.primitive .string) with comment := some "Full name" }] }]

/-- What is said of people. -/
def personDocs : DocMetadata := .ofList (some "A person") [("name", "Full name")]

/-- What is said of orders and people. -/
def purchaseDocs : DocRegistry where
  entries := .ofList [("Order", .ofList (some "An order") [("customer", "Who pays")]),
    ("Person", personDocs)]

/-- What is published of an order. -/
def purchaseImage : Schema :=
  .object (some "An order")
    (some [("customer", personImage "Who pays"), ("recipients", .arrayOf (personImage "A person"))])
    ["customer", "recipients"] none

/-- The registry of the example. -/
theorem docs_purchases : (empty.insertAll purchases).value.docs = purchaseDocs := by
  decide +kernel

/-- The customer has the text that the order has for it and a recipient that of people, and both
have the text for their names. -/
theorem documentation_of_collect_purchases :
    let table := (empty.insertAll purchases).value
    (table.collect ["Order"] {}).value.schemas.get? "Order" = some purchaseImage ∧
      ∃ root ∈ table.starts ["Order"], root.1 = .named "Order" ∧
        ∀ place ∈ [some "Who pays", none], ∃ s part,
          Placed (table.graph ["Order"]) table.fieldText? root purchaseImage s place part ∧
          ∃ properties required,
            part = .object (place.or (some "A person")) (some properties) required none ∧
            ∃ property, properties.lookup "name" = some property ∧
              property.description = some "Full name" := by
  intro table
  have himage : (table.collect ["Order"] {}).value.schemas.get? "Order" = some purchaseImage := by
    rw [schemas_collect, batch, docs_purchases]
    cbv
  obtain ⟨root, hroot, hname, -, hplaces⟩ :=
    documentation_of_collect purchases ["Order"] {} "Order" purchaseImage himage
  refine ⟨himage, root, hroot, hname, fun place hplace => ?_⟩
  obtain ⟨_, hmem⟩ := root
  cases hname
  let person : {t : TypeRef // t ∈ table.definitions.typeRefs (table.roots ["Order"])} :=
    ⟨.named "Person", by decide⟩
  let people : {t : TypeRef // t ∈ table.definitions.typeRefs (table.roots ["Order"])} :=
    ⟨.list (.named "Person"), by decide⟩
  let order : {t : TypeRef // t ∈ table.definitions.typeRefs (table.roots ["Order"])} :=
    ⟨.named "Order", hmem⟩
  have hperson : table.Documents purchases[1] personDocs :=
    ⟨by decide, rfl, by decide +kernel⟩
  have hfirst : ((table.graph ["Order"]).node order).elements =
      [] ++ ⟨"customer", false, person⟩ :: [⟨"recipients", false, people⟩] := rfl
  have hsecond : ((table.graph ["Order"]).node order).elements =
      [⟨"customer", false, person⟩] ++ ⟨"recipients", false, people⟩ :: [] := rfl
  have hitem : ((table.graph ["Order"]).node people).elements = [⟨"item", false, person⟩] := rfl
  have hcustomer : table.fieldText? "Order" "customer" = some "Who pays" := by decide +kernel
  have hplaced : ∃ part, Placed (table.graph ["Order"]) table.fieldText? order purchaseImage person
      place part := by
    simp only [List.mem_cons, List.not_mem_nil, or_false] at hplace
    rcases hplace with rfl | rfl
    · rw [← hcustomer]
      exact ⟨_, .field .root rfl hfirst (by decide) rfl⟩
    · have hpeople : Placed (table.graph ["Order"]) table.fieldText? order purchaseImage people
          (table.fieldText? "Order" "recipients") (.arrayOf (personImage "A person")) :=
        .field .root rfl hsecond (by decide) rfl
      exact ⟨_, hpeople.item (.inl rfl) hitem⟩
  obtain ⟨part, hpart⟩ := hplaced
  obtain ⟨properties, required, heq, hfields⟩ :=
    (hplaces person place part hpart).1 _ _ _ hperson rfl rfl
  exact ⟨person, part, hpart, properties, required, heq, hfields "name" "Full name" rfl⟩

end SourceTable

end TypeSchema
