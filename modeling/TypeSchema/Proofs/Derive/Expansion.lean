import TypeSchema.Proofs.Derive.Attributes

/-!
# Which definitions a derive accepts

What a definition has to say to a derive, whatever the order in which it is looked at: the fields and
variants that are written, its comments, and the shape that it gives. `Expansion.ofSyntax_eq_ok_iff`
says when a derive succeeds and what it then contributes: **nothing is refused anywhere**, and the
comments can be read.
-/

namespace TypeSchema

open Source (Attribute DefinitionSyntax FieldSyntax SerdeFlags VariantSyntax keysOf)

/-! ### What a definition says -/

namespace Source

/-- Is the field written out? -/
def FieldSyntax.isWritten (field : FieldSyntax) : Bool :=
  !(SerdeFlags.ofAttributes field.attributes).skipped

/-- Is the variant written out? -/
def VariantSyntax.isWritten (v : VariantSyntax) : Bool :=
  !(SerdeFlags.ofAttributes v.attributes).skipped

namespace DefinitionSyntax

/-- Is it the definition of an enum, or of a struct whose fields, if any, have names? -/
def IsNamed (d : DefinitionSyntax) : Prop :=
  match d.body with
  | .struct .unnamed | .union => False
  | _ => True

/-- The named fields. -/
def fields (d : DefinitionSyntax) : List FieldSyntax :=
  match d.body with
  | .struct (.named fields) => fields
  | _ => []

/-- The variants. -/
def variants (d : DefinitionSyntax) : List VariantSyntax :=
  match d.body with
  | .enumeration variants => variants
  | _ => []

/-- The attributes of the type, of its fields and of its variants. -/
def annotations (d : DefinitionSyntax) : List (List Attribute) :=
  d.attributes :: (d.fields.map FieldSyntax.attributes ++ d.variants.map VariantSyntax.attributes)

/-- The annotations of a definition are its own, those of its fields and those of its variants. -/
theorem forall_annotations_iff {d : DefinitionSyntax} {P : List Attribute → Prop} :
    (∀ attributes ∈ d.annotations, P attributes) ↔
      P d.attributes ∧ (∀ field ∈ d.fields, P field.attributes) ∧
        ∀ v ∈ d.variants, P v.attributes := by
  rw [annotations, List.forall_mem_cons, List.forall_mem_append, List.forall_mem_map,
    List.forall_mem_map]

/-- The comments of fields that are written. -/
def comments (fields : List FieldSyntax) : List (String × Option String) :=
  (fields.filter FieldSyntax.isWritten).map fun field =>
    (field.name.name, Attribute.docText field.attributes)

/-- The documentation of the type and of the fields that are written. -/
def doc (d : DefinitionSyntax) : Except DocError DocMetadata :=
  Doc.metadata (Attribute.docText d.attributes) (comments d.fields)

end DefinitionSyntax

end Source

/-! ### Fields -/

namespace Derive

/-- Do the `koja` attributes of a field say that there is a default? -/
def saysDefault (attributes : List Attribute) : Bool :=
  (fieldDefault attributes).toOption.getD false

/-- A default that is understood is the one that is said. -/
theorem saysDefault_of_eq_ok {attributes : List Attribute} {value : Bool}
    (h : fieldDefault attributes = .ok value) : saysDefault attributes = value := by
  rw [saysDefault, h]
  rfl

/-- What `serde` attributes that are accepted say. -/
def said (attributes : List Attribute) : SerdeOptions := .ofKeys (keysOf "serde" attributes)

/-- A derive leaves out what is not written. -/
theorem not_skipped_said (attributes : List Attribute) :
    (!(said attributes).skipped) = !(SerdeFlags.ofAttributes attributes).skipped := by
  rw [SerdeFlags.ofAttributes_eq]
  rfl

/-- Are the `serde` attributes accepted? -/
def Accepted (attributes : List Attribute) : Prop :=
  ∃ o, SerdeOptions.ofAttributes attributes = .ok o

/-- Options that are accepted are those that are said. -/
theorem said_of_eq_ok {attributes : List Attribute} {o : SerdeOptions}
    (h : SerdeOptions.ofAttributes attributes = .ok o) : said attributes = o :=
  (SerdeOptions.ofAttributes_eq_ok_iff.1 h).2.2

/-- Is the `koja` attribute of the field understood? -/
def Understood (field : FieldSyntax) : Prop := ∃ value, fieldDefault field.attributes = .ok value

/-- The field that a field becomes. -/
def Field.ofSyntax (allOptional : Bool) (field : FieldSyntax) : Field where
  name := field.name
  type := field.type
  typeTokens := field.typeTokens
  optional := saysDefault field.attributes || (said field.attributes).optional || allOptional

/-- The fields that are written. -/
theorem writtenFields_eq_ok_iff {fields : List OptionedField}
    {written : List (OptionedField × SerdeOptions)} :
    writtenFields fields = .ok written ↔
      (∀ field ∈ fields, Accepted field.1.attributes) ∧
        (fields.filter fun field => field.1.isWritten).map
          (fun field => (field, said field.1.attributes)) = written := by
  have hwritten : ((fields.zip (fields.map fun field => said field.1.attributes)).filter fun entry =>
      !entry.2.skipped) = (fields.filter fun field => field.1.isWritten).map
        fun field => (field, said field.1.attributes) := by
    rw [← List.map_prod_left_eq_zip, List.filter_map]
    exact congrArg _ (List.filter_congr fun field _ => not_skipped_said field.1.attributes)
  unfold writtenFields
  rw [bind_eq_ok_iff]
  simp only [mapM_eq_ok_iff fun _ _ => said_of_eq_ok]
  constructor
  · rintro ⟨_, ⟨haccepted, rfl⟩, h⟩
    exact ⟨haccepted, hwritten ▸ Except.ok.inj h⟩
  · rintro ⟨haccepted, rfl⟩
    exact ⟨_, ⟨haccepted, rfl⟩, congrArg Except.ok hwritten⟩

/-! ### Expansions -/

/-- The shape that a definition gives. -/
def Shape.ofSyntax (d : DefinitionSyntax) : Shape :=
  match d.body with
  | .enumeration variants =>
    let written := variants.filter VariantSyntax.isWritten
    if written.all VariantSyntax.isUnit then .enumeration (written.map fun v => v.name.name)
    else .polymorphic
  | _ => .object ((d.fields.filter FieldSyntax.isWritten).map
      (Field.ofSyntax (said d.attributes).optional))

/-- A shape is given beside the documentation, if that can be read. -/
theorem documented_eq_ok_iff {docs : Except DocError DocMetadata} {shape : Shape} {e : Expansion} :
    (match docs with
      | .error error => throw (.doc error)
      | .ok docs => return { shape, docs } : Except DeriveError Expansion) = .ok e ↔
      docs = .ok e.docs ∧ shape = e.shape := by
  obtain ⟨otherShape, otherDocs⟩ := e
  cases docs with
  | error => exact iff_of_false nofun fun h => nomatch h.1
  | ok docs => simp [pure, Except.pure, and_comm]

/-- The expansion of a struct whose `koja` attributes are understood. -/
theorem expandStruct_eq_ok_iff {attributes : List Attribute} {allOptional : Bool}
    {fields : List FieldSyntax} {e : Expansion} :
    expandStruct attributes allOptional
        (fields.zip (fields.map fun field => saysDefault field.attributes)) = .ok e ↔
      (∀ field ∈ fields, Accepted field.attributes) ∧
        Doc.metadata (Attribute.docText attributes) (DefinitionSyntax.comments fields) =
            .ok e.docs ∧
          .object ((fields.filter FieldSyntax.isWritten).map (Field.ofSyntax allOptional)) =
            e.shape := by
  have hwritten : ((fields.map fun field => (field, saysDefault field.attributes)).filter
        fun field => field.1.isWritten).map (fun field => (field, said field.1.attributes)) =
      (fields.filter FieldSyntax.isWritten).map fun field =>
        ((field, saysDefault field.attributes), said field.attributes) := by
    rw [List.filter_map, List.map_map]
    rfl
  unfold expandStruct
  rw [bind_eq_ok_iff, ← List.map_prod_left_eq_zip]
  simp only [writtenFields_eq_ok_iff, hwritten, List.forall_mem_map, and_assoc, exists_and_left,
    exists_eq_left', List.map_map]
  exact and_congr_right fun _ => documented_eq_ok_iff

/-- The expansion of an enum. -/
theorem expandEnum_eq_ok_iff {attributes : List Attribute} {variants : List VariantSyntax}
    {e : Expansion} :
    expandEnum attributes variants = .ok e ↔
      (∀ v ∈ variants, Accepted v.attributes) ∧
        Doc.metadata (Attribute.docText attributes) [] = .ok e.docs ∧
          (if (variants.filter VariantSyntax.isWritten).all VariantSyntax.isUnit then
              .enumeration ((variants.filter VariantSyntax.isWritten).map fun v => v.name.name)
            else .polymorphic) = e.shape := by
  have hwritten : ((variants.zip (variants.map fun v => said v.attributes)).filter fun entry =>
      !entry.2.skipped).map Prod.fst = variants.filter VariantSyntax.isWritten := by
    rw [← List.map_prod_left_eq_zip, List.filter_map, List.map_map]
    exact (List.map_id' _).trans (List.filter_congr fun v _ => not_skipped_said v.attributes)
  unfold expandEnum
  rw [bind_eq_ok_iff]
  simp only [mapM_eq_ok_iff fun _ _ => said_of_eq_ok, and_assoc, exists_and_left, exists_eq_left',
    hwritten]
  exact and_congr_right fun _ => documented_eq_ok_iff

/-- Fields are expanded exactly if each of them is understood, nothing is refused and the comments
can be read. -/
theorem expandFields_eq_ok_iff {attributes : List Attribute} {fields : List FieldSyntax}
    {e : Expansion} :
    expandFields attributes fields = .ok e ↔
      checkContainer attributes = .ok () ∧ (∀ field ∈ fields, Understood field) ∧
        Accepted attributes ∧ (∀ field ∈ fields, Accepted field.attributes) ∧
          Doc.metadata (Attribute.docText attributes) (DefinitionSyntax.comments fields) =
              .ok e.docs ∧
            .object ((fields.filter FieldSyntax.isWritten).map
              (Field.ofSyntax (said attributes).optional)) = e.shape := by
  unfold expandFields
  rw [bind_eq_ok_iff]
  simp only [bind_eq_ok_iff, mapM_eq_ok_iff fun _ _ => saysDefault_of_eq_ok]
  constructor
  · rintro ⟨_, hcontainer, _, ⟨hfields, rfl⟩, o, ho, h⟩
    rw [← said_of_eq_ok ho] at h
    exact ⟨hcontainer, hfields, ⟨o, ho⟩, expandStruct_eq_ok_iff.1 h⟩
  · rintro ⟨hcontainer, hfields, ⟨o, ho⟩, h⟩
    rw [said_of_eq_ok ho] at h
    exact ⟨(), hcontainer, _, ⟨hfields, rfl⟩, o, ho, expandStruct_eq_ok_iff.2 h⟩

end Derive

/-- **When a derive succeeds, and what it contributes.** -/
theorem Expansion.ofSyntax_eq_ok_iff {d : DefinitionSyntax} {e : Expansion} :
    ofSyntax d = .ok e ↔
      d.IsNamed ∧ Derive.checkContainer d.attributes = .ok () ∧
        (∀ field ∈ d.fields, Derive.Understood field) ∧
          (∀ attributes ∈ d.annotations, Derive.Accepted attributes) ∧
            d.doc = .ok e.docs ∧ Derive.Shape.ofSyntax d = e.shape := by
  rw [DefinitionSyntax.forall_annotations_iff]
  obtain ⟨attributes, name, generics, body⟩ := d
  cases body with
  | struct fields =>
    cases fields with
    | named fields =>
      show Derive.expandFields attributes fields = .ok e ↔ True ∧ _
      rw [Derive.expandFields_eq_ok_iff]
      simp only [DefinitionSyntax.variants, List.not_mem_nil, IsEmpty.forall_iff, implies_true,
        true_and, and_assoc]
      rfl
    | unit =>
      show Derive.expandFields attributes [] = .ok e ↔ True ∧ _
      rw [Derive.expandFields_eq_ok_iff]
      simp only [DefinitionSyntax.fields, DefinitionSyntax.variants, List.not_mem_nil,
        IsEmpty.forall_iff, implies_true, true_and, and_assoc]
      rfl
    | unnamed => exact iff_of_false nofun fun h => h.1
  | enumeration variants =>
    have haccepted : discard (Derive.SerdeOptions.ofAttributes attributes) = .ok () ↔
        Derive.Accepted attributes := by
      unfold Derive.Accepted
      cases Derive.SerdeOptions.ofAttributes attributes with
      | error => exact iff_of_false nofun nofun
      | ok o => exact iff_of_true rfl ⟨o, rfl⟩
    show (Derive.checkContainer attributes >>= fun _ =>
      discard (Derive.SerdeOptions.ofAttributes attributes) >>= fun _ =>
        Derive.expandEnum attributes variants) = .ok e ↔ True ∧ _
    rw [check_bind_eq_ok_iff, check_bind_eq_ok_iff, haccepted, Derive.expandEnum_eq_ok_iff]
    simp only [DefinitionSyntax.fields, List.not_mem_nil, IsEmpty.forall_iff, implies_true,
      true_and, and_assoc]
    rfl
  | union => exact iff_of_false nofun fun h => h.1

end TypeSchema
