import TypeSchema.Proofs.Source.Layout
import TypeSchema.Proofs.Source.ProperTypes

/-!
# The types of a table of sources

What is asked of the types of a table, so that their schemas are lawful, holds of all types that are
read from texts: they are called by names, and the types of their fields are well named.

* `DefinitionSyntax.IsProper` and `Item.IsProper` say this of what the grammar gives.
* `ensures_typeDefinition` is one definition, and `ensures_item` an item with all that is in it. An item
  may be a module of items, so that the latter is an induction on how deep the rules are nested.
* `wellNamed_of_mem_typesIn` goes **from any texts to the types in them**, and `allTypes_readAll` to the
  table that is made of them.
-/

namespace TypeSchema

namespace Source

/-! ### Definitions -/

/-- Is the definition such as the grammar gives it: is its name a name, and are the types of its fields
proper? -/
structure DefinitionSyntax.IsProper (d : DefinitionSyntax) : Prop where
  /-- It is called by a name. -/
  name : IsName d.name.name
  /-- Its fields have proper types. -/
  fields : ∀ field ∈ d.fields, field.type.IsProper

/-- Are all definitions in the item proper? -/
def Item.IsProper (item : Item) : Prop := ∀ d ∈ item.definitions, d.IsProper

/-- All definitions among proper items are proper. -/
theorem Item.isProper_of_mem_definitionsOf {items : List Item} (h : ∀ item ∈ items, item.IsProper) :
    ∀ d ∈ Item.definitionsOf items, d.IsProper := by
  induction items with
  | nil => exact List.forall_mem_nil _
  | cons item rest ih =>
    obtain ⟨hitem, hrest⟩ := List.forall_mem_cons.1 h
    rw [Item.definitionsOf]
    exact List.forall_mem_append.2 ⟨hitem, ih hrest⟩

/-- An item without definitions is proper. -/
@[simp] theorem Item.isProper_other : Item.other.IsProper := List.forall_mem_nil _

namespace Grammar

open TypeSchema.Source.Parser

variable {rules : Rules} {s : ParseState}

/-- The types of fields in braces are proper. -/
theorem ensures_namedFields (hrules : rules.IsProper) :
    (namedFields rules).Ensures s fun fields _ => ∀ field ∈ fields, field.type.IsProper := by
  have hfield : ∀ s, (namedField rules).Ensures s fun field _ => field.type.IsProper := fun s =>
    .seq fun _ _ _ => .seq fun _ _ _ => .seq fun _ _ _ => .seq fun _ _ _ =>
      .bind (ensures_capture (R := fun r => r.1.IsProper) (hrules.type true _))
        fun ⟨_, _⟩ _ _ htype => .pure htype
  exact (ensures_group fun _ => ensures_listUntil hfield).mono fun _ _ _ h => h.1

/-- The fields of a struct, if they have names, have proper types. -/
theorem ensures_structBody (hrules : rules.IsProper) :
    (structBody rules).Ensures s fun r _ =>
      ∀ fields, r.1 = .named fields → ∀ field ∈ fields, field.type.IsProper := by
  unfold structBody
  refine .peek ?_
  split
  · exact .seq fun _ _ _ => .seq fun _ _ _ => .seq fun _ _ _ => .pure fun _ h => by cases h
  refine .seq fun _ _ _ => .peek ?_
  split
  · refine .bind (ensures_namedFields hrules) fun fields _ _ hfields => .pure fun _ h => ?_
    cases h
    exact hfields
  · exact .seq fun _ _ _ => .pure fun _ h => by cases h

/-- **The definition of a type** is proper. -/
theorem ensures_typeDefinition (hrules : rules.IsProper) (attributes : List Attribute) :
    (typeDefinition rules attributes).Ensures s fun d _ => d.IsProper := by
  unfold typeDefinition
  refine .ite ensures_word? (fun _ _ _ => ?_) fun _ => .ite ensures_word? (fun _ _ _ => ?_) fun _ => ?_
  · refine .bind ensures_name fun _ _ _ ⟨hname, _⟩ => .seq fun _ _ _ =>
      .bind (ensures_structBody hrules) fun ⟨fields, predicates⟩ _ _ hfields => .pure ⟨hname, ?_⟩
    cases fields with
    | named fields => exact hfields fields rfl
    | unnamed | unit => exact List.forall_mem_nil _
  · exact .bind ensures_name fun _ _ _ ⟨hname, _⟩ => .seq fun _ _ _ => .seq fun _ _ _ =>
      .seq fun _ _ _ => .pure ⟨hname, List.forall_mem_nil _⟩
  · exact .seq fun _ _ _ => .bind ensures_name fun _ _ _ ⟨hname, _⟩ => .seq fun _ _ _ =>
      .seq fun _ _ _ => .seq fun _ _ _ => .pure ⟨hname, List.forall_mem_nil _⟩

/-! ### Items -/

/-- The items of a module are proper if those of the rules are. -/
theorem ensures_module (hitem : ∀ s, rules.item.Ensures s fun item _ => item.IsProper) :
    (module rules).Ensures s fun item _ => item.IsProper := by
  refine .seq fun _ _ _ => .peek (.seq fun _ _ _ => .seq fun found _ _ => ?_)
  split
  · exact .pure Item.isProper_other
  · refine (ensures_group fun s => ?_).mono fun _ _ _ h => h.1
    exact .seq fun _ _ _ => .bind (ensures_toEnd hitem) fun items _ _ hitems =>
      .pure (Item.isProper_of_mem_definitionsOf hitems)

/-- What begins with the word `unsafe` defines no type, apart from the items of a module. -/
theorem ensures_unsafeItem (visible : Bool) :
    (unsafeItem rules visible).Ensures s fun item? _ => ∀ item, item? = some item → item.IsProper := by
  have hother : ∀ item, some Item.other = some item → item.IsProper := by
    rintro item h
    cases h
    exact Item.isProper_other
  unfold unsafeItem
  refine .peek ?_
  split
  · exact .seq fun _ _ _ => .pure hother
  refine .peek ?_
  split
  · exact .seq fun _ _ _ => .pure fun _ h => by cases h
  refine .seq fun _ _ _ => .peek ?_
  split
  · exact .ensure fun _ => .seq fun _ _ _ => .seq fun _ _ _ => .pure hother
  · exact .seq fun _ _ _ => .seq fun _ _ _ => .seq fun _ _ _ => .pure hother

/-- **An item** is proper: it is a definition, a module, or neither. -/
theorem ensures_item (hrules : rules.IsProper)
    (hitem : ∀ s, rules.item.Ensures s fun item _ => item.IsProper) :
    (item rules).Ensures s fun item _ => item.IsProper := by
  have hother : ∀ {t : ParseState},
      (pure Item.other : Parser Item).Ensures t fun item _ => item.IsProper :=
    .pure Item.isProper_other
  refine .seq fun attributes t _ => .here ?_
  extract_lets start tokens visible done
  refine .branch (fun _ => .seq fun _ _ _ => .seq fun _ _ _ => hother) fun _ => ?_
  refine .branch (fun _ => .seq fun _ _ _ => .bind (ensures_typeDefinition hrules attributes)
    fun d _ _ hd => .pure (List.forall_mem_singleton.2 hd)) fun _ => ?_
  refine .branch (fun _ => .seq fun _ _ _ => .seq fun _ _ _ => hother) fun _ => ?_
  refine .branch (fun _ => .seq fun _ _ _ => .seq fun _ _ _ => hother) fun _ => ?_
  refine .branch (fun _ => .seq fun _ _ _ => .bind (ensures_unsafeItem visible) ?_) fun _ => ?_
  · rintro (_ | item) _ - hdefined
    · exact ensures_module hitem
    · exact .pure (hdefined item rfl)
  refine .branch (fun _ => .seq fun _ _ _ => ensures_module hitem) fun _ => ?_
  refine .branch (fun _ => .seq fun _ _ _ => .peek ?_) fun _ => .ensure fun _ => .seq fun _ _ _ =>
    hother
  -- The words for items in which no type is defined.
  refine .branch (fun _ => .seq fun _ _ _ => hother) fun _ => ?_
  refine .ite ensures_word? (fun _ _ _ => .seq fun _ _ _ => .seq fun _ _ _ => .seq fun _ _ _ =>
    hother) fun _ => ?_
  refine .ite ensures_word? (fun _ _ _ => .seq fun _ _ _ => hother) fun _ => ?_
  refine .ite ensures_word? (fun _ _ _ => .seq fun _ _ _ => hother) fun _ => ?_
  refine .ite ensures_word? (fun _ _ _ => .seq fun _ _ _ => hother) fun _ => ?_
  exact .seq fun _ _ _ => .seq fun _ _ _ => .seq fun _ _ _ => hother

/-- **The items of the rules** are proper, however deep modules may be nested. -/
theorem ensures_item_build (depth : Nat) (s : ParseState) :
    (Rules.build depth).item.Ensures s fun item _ => item.IsProper := by
  induction depth generalizing s with
  | zero => exact .failure
  | succ depth ih => exact fun hs => ensures_item (Rules.isProper_build depth) ih hs

end Grammar

/-! ### Texts -/

/-- **The items of a file** are proper. -/
theorem isProper_of_items? {text : String} {items : List Item} (h : items? text = some items) :
    ∀ item ∈ items, item.IsProper := by
  obtain ⟨tokens, htokens, hrun⟩ := Option.bind_eq_some_iff.1 h
  obtain ⟨⟨read, after⟩, hfile, hend⟩ := Option.bind_eq_some_iff.1 hrun
  dsimp only at hend
  split at hend
  · cases hend
    have hensures : ∀ depth s, (Grammar.file (Rules.build depth)).Ensures s fun items _ =>
        ∀ item ∈ items, item.IsProper := fun depth s =>
      .seq fun _ _ _ => Parser.ensures_toEnd fun s =>
        Grammar.ensures_item (Rules.isProper_build depth) (Grammar.ensures_item_build depth)
    exact hensures _ _ (Lexer.isProper_of_fileTokens? htokens) _ _ hfile
  · cases hend

end Source

open Source (DefinitionSyntax Item items? typesOf)

/-- A proper definition gives a type that is well named. -/
theorem SourceType.wellNamed_of_ofSyntax? {d : DefinitionSyntax} {t : SourceType}
    (hd : d.IsProper) (h : ofSyntax? d = some t) : t.WellNamed := by
  refine ⟨name_of_ofSyntax? h ▸ hd.name, ?_⟩
  rw [fields_of_ofSyntax? h, List.forall_mem_map]
  exact fun field hfield =>
    TypeRef.wellNamed_ofSyntax (hd.fields field (List.mem_of_mem_filter hfield))

/-- **All types that are read from texts are well named.** -/
theorem SourceTable.wellNamed_of_mem_typesIn {texts : List String} {t : SourceType}
    (ht : t ∈ typesIn texts) : t.WellNamed := by
  obtain ⟨items, hitems, ht⟩ := List.mem_flatMap.1 ht
  obtain ⟨text, -, hread⟩ := List.mem_filterMap.1 hitems
  obtain ⟨d, hd, htype⟩ := List.mem_filterMap.1 ht
  exact SourceType.wellNamed_of_ofSyntax?
    (Item.isProper_of_mem_definitionsOf (Source.isProper_of_items? hread) d hd) htype

/-- The table of any texts holds nothing but types that are well named. -/
theorem SourceTable.allTypes_readAll (texts : List String) :
    (empty.readAll texts).AllTypes SourceType.WellNamed := by
  rw [readAll_eq_insertAll]
  exact allTypes_empty.insertAll fun _ => wellNamed_of_mem_typesIn

end TypeSchema
