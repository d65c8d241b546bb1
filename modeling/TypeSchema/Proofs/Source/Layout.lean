import TypeSchema.Proofs.Attempt
import TypeSchema.Proofs.Source.Definition
import TypeSchema.Proofs.Source.Documentation
import TypeSchema.Source.Grammar

/-!
# Definitions in files and modules

A table is filled file by file, and in a file item by item, down into the modules. None of this
shows in the table: what counts is the sequence in which the definitions are written.

* `addItems` is the walk through the items of a file. `addFiles_eq`: it adds the definitions one after
  the other, as if there were no files and no modules.
* `lastNamed?` and `lasts` are what a sequence of definitions says in the end: the **last** definition
  of each name, in the place of the **first**. `holds_insertAll`: this is what a table holds, and what
  all that is read from it goes back to.
* `Source.Redistributed` are the ways to lay out the same definitions;
  `redistributed_iff`: there are no others.
* `readAll_holds` starts from the texts of the files. A text that cannot be read changes nothing.
-/

namespace TypeSchema

/-! ### The items of files -/

namespace Source

/-- The structs and enums among items and in their modules, in the order in which they are
written. -/
def typesOf (items : List Item) : List SourceType :=
  (Item.definitionsOf items).filterMap SourceType.ofSyntax?

/-- The definitions among items in a row. -/
@[simp] theorem Item.definitionsOf_append (items others : List Item) :
    definitionsOf (items ++ others) = definitionsOf items ++ definitionsOf others := by
  induction items with
  | nil => rfl
  | cons item rest ih => rw [List.cons_append, definitionsOf, definitionsOf, ih, List.append_assoc]

end Source

namespace SourceTable

open Source (Item typesOf)

/-! ### The walk through the items -/

/-- Types are added in turn. -/
theorem insertAll_append (table : SourceTable) (types others : List SourceType) :
    table.insertAll (types ++ others) =
      table.insertAll types >>= fun table => table.insertAll others := by
  induction types generalizing table with
  | nil => rw [List.nil_append, insertAll, pure_bind]
  | cons t rest ih =>
    rw [List.cons_append, insertAll, insertAll, bind_assoc]
    exact bind_congr fun table => ih table

/-- Adding one type is adding a list of it. -/
@[simp]
theorem insertAll_singleton (table : SourceTable) (t : SourceType) : table.insertAll [t] = table.insert t := by
  rw [insertAll]
  exact bind_pure _

mutual

/-- An item adds the types that are written in it, one after the other. -/
theorem addItem_eq (table : SourceTable) (item : Item) :
    table.addItem item =
      table.insertAll ((Item.definitions item).filterMap SourceType.ofSyntax?) := by
  cases item with
  | definition d =>
    rw [addItem, Item.definitions, List.filterMap_cons]
    cases SourceType.ofSyntax? d with
    | none => rfl
    | some t => exact (insertAll_singleton table t).symm
  | module items => exact addItems_eq table items
  | other => rfl

/-- **Items add the types that are written in them**, one after the other. -/
theorem addItems_eq (table : SourceTable) (items : List Item) :
    table.addItems items = table.insertAll (typesOf items) := by
  cases items with
  | nil => rfl
  | cons item rest =>
    rw [addItems, addItem_eq table item, typesOf, Item.definitionsOf, List.filterMap_append,
      insertAll_append]
    exact bind_congr fun table => addItems_eq table rest

end

/-- **Files add the types that are written in them**, one after the other. -/
theorem addFiles_eq (table : SourceTable) (files : List (List Item)) :
    table.addFiles files = table.insertAll (files.flatMap typesOf) := by
  induction files generalizing table with
  | nil => rfl
  | cons items rest ih =>
    rw [addFiles, addItems_eq, List.flatMap_cons, insertAll_append]
    exact bind_congr fun table => ih table

/-! ### What a sequence of definitions says in the end -/

/-- The last type of a name. -/
def lastNamed? (types : List SourceType) (name : String) : Option SourceType :=
  types.reverse.find? fun t => t.name == name

/-- The last types of the names, in the order in which the names come first. -/
def lasts (types : List SourceType) : List SourceType :=
  (types.map SourceType.name).eraseDups.filterMap (lastNamed? types)

variable {table : SourceTable} {types : List SourceType} {name : String} {t : SourceType}

/-- The last type of a name has the name, and no type after it does. -/
theorem lastNamed?_eq_some_iff :
    lastNamed? types name = some t ↔
      ∃ before after, types = before ++ t :: after ∧ t.name = name ∧ ∀ u ∈ after, u.name ≠ name := by
  rw [lastNamed?, List.find?_eq_some_iff_append]
  simp only [beq_iff_eq, Bool.not_eq_true', beq_eq_false_iff_ne]
  constructor
  · rintro ⟨hname, before, after, heq, hbefore⟩
    refine ⟨after.reverse, before.reverse, ?_, hname, fun u hu => hbefore u (List.mem_reverse.1 hu)⟩
    rw [← List.reverse_reverse types, heq, List.reverse_append, List.reverse_cons,
      List.append_assoc, List.singleton_append]
  · rintro ⟨before, after, rfl, hname, hafter⟩
    refine ⟨hname, after.reverse, before.reverse, ?_, fun u hu => hafter u (List.mem_reverse.1 hu)⟩
    rw [List.reverse_append, List.reverse_cons, List.append_assoc, List.singleton_append]

/-- A type is the last one of its name unless another one follows. -/
theorem lastNamed?_cons :
    lastNamed? (t :: types) name =
      (lastNamed? types name).or (if t.name = name then some t else none) := by
  rw [lastNamed?, List.reverse_cons, List.find?_append, List.find?_singleton, lastNamed?]
  simp only [beq_iff_eq]

/-- The names after types are added. -/
theorem keys_insertAll :
    (table.insertAll types).value.types.keys =
      (types.map SourceType.name).foldl (fun seen name => addName name seen) table.types.keys := by
  induction types generalizing table with
  | nil => rfl
  | cons t rest ih =>
    have hkeys : (table.insert t).value.types.keys = addName t.name table.types.keys :=
      OrderedMap.keys_insert table.types t.name t
    exact ih.trans (by rw [hkeys, List.map_cons, List.foldl_cons])

/-- What is found after types are added: the last of them with the name or, if there is none, what was
found before. -/
theorem get?_insertAll :
    (table.insertAll types).value.types.get? name =
      (lastNamed? types name).or (table.types.get? name) := by
  induction types generalizing table with
  | nil => rfl
  | cons t rest ih =>
    have hget : (table.insert t).value.types.get? name =
        (if t.name = name then some t else none).or (table.types.get? name) := by
      split
      · next hname =>
        rw [← hname]
        exact OrderedMap.get?_insert_self t.name t
      · next hname => exact OrderedMap.get?_insert_of_ne (Ne.symm hname) t
    exact ih.trans (by rw [hget, lastNamed?_cons, Option.or_assoc])

/-- Does a table hold the last of the types of each name, and does what is read from it go back to
these? -/
structure Holds (table : SourceTable) (types : List SourceType) : Prop where
  /-- The names stand in the order in which they come first. -/
  keys_eq : table.types.keys = (types.map SourceType.name).eraseDups
  /-- There is no second entry for a name. -/
  nodup : table.types.keys.Nodup
  /-- Under a name stands the last type of the name. -/
  get?_iff : ∀ name t, table.types.get? name = some t ↔
    ∃ before after, types = before ++ t :: after ∧ t.name = name ∧ ∀ u ∈ after, u.name ≠ name
  /-- Each type stands under its own name. -/
  named : ∀ entry ∈ table.types.entries, entry.1 = entry.2.name
  /-- A name that is looked for is there if a type has it. -/
  contains_eq : ∀ name, table.contains name = (lastNamed? types name).isSome
  /-- The definition of a name is that of the last type, if there is one. -/
  definition_eq : ∀ name,
    table.definitions.get? name = (lastNamed? types name).map SourceType.definition
  /-- So is the descriptor, wherever the name is used. -/
  node_eq : ∀ name, table.definitions.node (.named name) =
    ((lastNamed? types name).map fun t => t.definition.node).getD (.contextual name)
  /-- The names that are listed are those of the last types that derive a schema. -/
  eligibleNames_eq :
    table.eligibleNames = ((lasts types).filter SourceType.eligible).map SourceType.name
  /-- Of these it is said what keeps them from having a schema, -/
  rejections_eq : table.rejections =
    ((lasts types).filter SourceType.eligible).filterMap fun t =>
      t.rejection?.map fun e => (t.name, e)
  /-- what there is to say of them, -/
  docs_eq : table.docs.entries.entries =
    ((lasts types).filter SourceType.eligible).filterMap docEntry?
  /-- and whose doc comments are refused. -/
  failures_eq : table.docRegistry.value.2 =
    ((lasts types).filter SourceType.eligible).filterMap docFailure?

/-- **A table holds the last types of its names.** -/
theorem holds_insertAll (types : List SourceType) : (empty.insertAll types).value.Holds types := by
  have htypes : (empty.insertAll types).value.AllTypes fun _ => True :=
    allTypes_empty.insertAll fun _ _ => trivial
  have hkeys : (empty.insertAll types).value.types.keys = (types.map SourceType.name).eraseDups := by
    refine keys_insertAll.trans ((foldl_addName _ _).trans ?_)
    show [] ++ ((types.map SourceType.name).filter fun name => name ∉ ([] : List String)).eraseDups = _
    simp
  have hget : ∀ name, (empty.insertAll types).value.types.get? name = lastNamed? types name :=
    fun name => get?_insertAll.trans (Option.or_none)
  have hdefinition : ∀ name, (empty.insertAll types).value.definitions.get? name =
      (lastNamed? types name).map SourceType.definition := by
    intro name
    rw [definitions, OrderedMap.get?_map, hget]
  have hvalues : (empty.insertAll types).value.types.values = lasts types := by
    rw [OrderedMap.values_eq, hkeys, lasts]
    exact List.filterMap_congr fun name _ => hget name
  have heligible : (empty.insertAll types).value.eligibleTypes =
      (lasts types).filter SourceType.eligible := by
    rw [eligibleTypes, hvalues]
  exact {
    keys_eq := hkeys
    nodup := (empty.insertAll types).value.types.nodup
    get?_iff := fun name t => (hget name).symm ▸ lastNamed?_eq_some_iff
    named := fun entry hentry => (htypes entry hentry).1
    contains_eq := fun name => congrArg Option.isSome (hget name)
    definition_eq := hdefinition
    node_eq := fun name => by
      rw [Definitions.node, Definitions.nodeNamed, hdefinition]
      cases lastNamed? types name <;> rfl
    eligibleNames_eq := congrArg (List.map SourceType.name) heligible
    rejections_eq := congrArg (List.filterMap _) heligible
    docs_eq := heligible ▸
      entries_registerAll htypes.nodup_eligibleNames fun _ _ => List.not_mem_nil
    failures_eq := heligible ▸ failures_docRegistry _ }

/-- A struct that is defined again, below two modules of another file, keeps its place and takes the
new shape. -/
example :
    let plain (name : String) (body : Source.DefinitionBody) : Item :=
      .definition { attributes := [], name := { name }, generics := {}, body }
    let files : List (List Item) :=
      [[plain "A" (.struct .unit), .module [plain "B" (.enumeration []), .other]],
        [.module [.module [plain "A" (.struct .unnamed)]]]]
    (empty.addFiles files).value.types.entries.map (fun entry => (entry.1, entry.2.shape)) =
      [("A", .tuple), ("B", .enumeration [])] := by decide

end SourceTable

/-! ### Layouts of the same definitions -/

namespace Source

/-- Can items be had from others by putting some that stand beside each other into a module, by
taking those of a module out of it, or by adding or removing an item that defines no type? -/
inductive Regrouped : List Item → List Item → Prop where
  | refl (items : List Item) : Regrouped items items
  | symm {items others : List Item} : Regrouped items others → Regrouped others items
  | trans {items others more : List Item} :
    Regrouped items others → Regrouped others more → Regrouped items more
  | append {items others more further : List Item} :
    Regrouped items others → Regrouped more further → Regrouped (items ++ more) (others ++ further)
  | module (items : List Item) : Regrouped items [.module items]
  | other : Regrouped [] [.other]

/-- Can files be had from others by splitting or joining them, or by regrouping their items? -/
inductive Redistributed : List (List Item) → List (List Item) → Prop where
  | refl (files : List (List Item)) : Redistributed files files
  | symm {files others : List (List Item)} : Redistributed files others → Redistributed others files
  | trans {files others more : List (List Item)} :
    Redistributed files others → Redistributed others more → Redistributed files more
  | append {files others more further : List (List Item)} :
    Redistributed files others → Redistributed more further →
      Redistributed (files ++ more) (others ++ further)
  | split (items more : List Item) : Redistributed [items ++ more] [items, more]
  | regroup {items others : List Item} : Regrouped items others → Redistributed [items] [others]
  | empty : Redistributed [] [[]]

/-- Modules can come and go while the definitions stay the same. -/
theorem Regrouped.definitionsOf_eq {items others : List Item} (h : Regrouped items others) :
    Item.definitionsOf items = Item.definitionsOf others := by
  induction h with
  | refl => rfl
  | symm _ ih => exact ih.symm
  | trans _ _ ih ih' => exact ih.trans ih'
  | append _ _ ih ih' => rw [Item.definitionsOf_append, Item.definitionsOf_append, ih, ih']
  | module items => exact (List.append_nil _).symm
  | other => rfl

/-- Files can come and go while the definitions stay the same. -/
theorem Redistributed.definitions_eq {files others : List (List Item)}
    (h : Redistributed files others) :
    files.flatMap Item.definitionsOf = others.flatMap Item.definitionsOf := by
  induction h with
  | refl => rfl
  | symm _ ih => exact ih.symm
  | trans _ _ ih ih' => exact ih.trans ih'
  | append _ _ ih ih' => rw [List.flatMap_append, List.flatMap_append, ih, ih']
  | split items more =>
    rw [List.flatMap_cons, Item.definitionsOf_append, List.append_assoc]
    rfl
  | regroup h => exact congrArg (· ++ []) h.definitionsOf_eq
  | empty => rfl

mutual

/-- Every item can be taken apart into its definitions. -/
theorem regrouped_definitions (item : Item) :
    Regrouped [item] ((Item.definitions item).map .definition) := by
  cases item with
  | definition d => exact .refl _
  | module items => exact (Regrouped.module items).symm.trans (regrouped_definitionsOf items)
  | other => exact Regrouped.other.symm

/-- All modules can be taken apart, and all that defines no type can be removed. -/
theorem regrouped_definitionsOf (items : List Item) :
    Regrouped items ((Item.definitionsOf items).map .definition) := by
  cases items with
  | nil => exact .refl _
  | cons item rest =>
    rw [Item.definitionsOf, List.map_append]
    exact (regrouped_definitions item).append (regrouped_definitionsOf rest)

end

/-- All files can be joined. -/
theorem redistributed_flatten (files : List (List Item)) : Redistributed files [files.flatten] := by
  induction files with
  | nil => exact .empty
  | cons items rest ih =>
    have hrest : Redistributed (items :: rest) [items, rest.flatten] :=
      (Redistributed.refl [items]).append ih
    exact hrest.trans (Redistributed.split items rest.flatten).symm

/-- The definitions of files are those of all their items. -/
@[simp] theorem definitionsOf_flatten (files : List (List Item)) :
    Item.definitionsOf files.flatten = files.flatMap Item.definitionsOf := by
  induction files with
  | nil => rfl
  | cons items rest ih => rw [List.flatten_cons, Item.definitionsOf_append, ih, List.flatMap_cons]

/-- **Files with the same definitions in the same order** are those that differ in nothing but their
layout. -/
theorem redistributed_iff {files others : List (List Item)} :
    Redistributed files others ↔
      files.flatMap Item.definitionsOf = others.flatMap Item.definitionsOf := by
  -- Both layouts are brought to one file without modules.
  have hnormal : ∀ files : List (List Item),
      Redistributed files [(files.flatMap Item.definitionsOf).map .definition] := fun files =>
    (redistributed_flatten files).trans
      (.regroup (definitionsOf_flatten files ▸ regrouped_definitionsOf files.flatten))
  refine ⟨Redistributed.definitions_eq, fun h => ?_⟩
  exact (hnormal files).trans (h ▸ (hnormal others).symm)

end Source

/-! ### Texts -/

namespace SourceTable

open Source (typesOf items? Redistributed)

/-- The structs and enums in the texts that can be read. -/
def typesIn (texts : List String) : List SourceType := (texts.filterMap items?).flatMap typesOf

/-- Texts that lay out the same definitions have the same types in them. -/
theorem typesIn_eq_of_redistributed {texts others : List String}
    (h : Redistributed (texts.filterMap items?) (others.filterMap items?)) :
    typesIn texts = typesIn others := by
  have hflat : ∀ texts : List String, typesIn texts =
      ((texts.filterMap items?).flatMap Source.Item.definitionsOf).filterMap SourceType.ofSyntax? :=
    fun _ => List.filterMap_flatMap.symm
  rw [hflat, hflat, h.definitions_eq]

/-- Reading texts is a walk through the items of those that can be read. -/
theorem readAll_eq (table : SourceTable) (texts : List String) :
    table.readAll texts = (table.addFiles (texts.filterMap items?)).value := by
  induction texts generalizing table with
  | nil => rfl
  | cons text rest ih =>
    rw [readAll, List.foldl_cons, List.filterMap_cons]
    have hread : table.read text = ((items? text).map fun items => (table.addItems items).value).getD
        table := by
      rw [read, addText?, Option.map_map]
      rfl
    rw [hread]
    cases items? text with
    | none => exact ih table
    | some items => exact ih (table.addItems items).value

/-- The table of texts is that of the types in them. -/
theorem readAll_eq_insertAll (texts : List String) :
    empty.readAll texts = (empty.insertAll (typesIn texts)).value :=
  (readAll_eq empty texts).trans (congrArg Logged.value (addFiles_eq empty _))

/-- **What is read from texts.** The table of any texts is filled by a walk through the items of those
that can be read, and depends on nothing but the sequence of the structs and enums: it holds the last
of each name, in the place of the first, and so does all that is read from it. Other files and modules
for the same definitions give the same table, and a text that cannot be read leaves it as it was. -/
theorem readAll_holds (texts : List String) :
    empty.readAll texts = (empty.addFiles (texts.filterMap items?)).value ∧
      (empty.readAll texts).Holds (typesIn texts) ∧
      (∀ others, typesIn others = typesIn texts → empty.readAll others = empty.readAll texts) ∧
      (∀ others, Redistributed (texts.filterMap items?) (others.filterMap items?) →
        empty.readAll others = empty.readAll texts) ∧
      ∀ (table : SourceTable) (text : String), items? text = none →
        table.addText? text = none ∧ table.read text = table := by
  refine ⟨readAll_eq empty texts, ?_, fun others h => ?_, fun others h => ?_,
    fun table text htext => ?_⟩
  · rw [readAll_eq_insertAll]
    exact holds_insertAll (typesIn texts)
  · rw [readAll_eq_insertAll, h, readAll_eq_insertAll]
  · rw [readAll_eq_insertAll, readAll_eq_insertAll, typesIn_eq_of_redistributed h]
  · have hnone : table.addText? text = none := by rw [addText?, htext]; rfl
    exact ⟨hnone, by rw [read, hnone]; rfl⟩

end SourceTable

end TypeSchema
