import TypeSchema.Proofs.Derive.Expansion
import TypeSchema.Proofs.Source.Collect

/-!
# What is reported of a type in a source

A type of a source is read whatever is wrong with it, and reported afterwards. `doc_of_ofSyntax?` and
`rejection?_of_ofSyntax?` say of its definition what is looked at then: **not the fields that are left
out**, and nothing that would be inlined other than a field. `SourceTable.not_reports_iff` goes from
the report of a table to the type.
-/

namespace TypeSchema

open Source (Attribute DefinitionSyntax FieldSyntax SerdeFlags VariantSyntax)

/-! ### Fields -/

/-- The field that a field becomes if it is written out. -/
def SourceField.ofSyntax (allOptional : Bool) (field : FieldSyntax) : SourceField where
  name := field.name.name
  type := .ofSyntax field.type
  optional := allOptional || (SerdeFlags.ofAttributes field.attributes).optional
  comment := Attribute.docText field.attributes
  renamed := (SerdeFlags.ofAttributes field.attributes).renamed
  flattened := (SerdeFlags.ofAttributes field.attributes).flattened

/-- A field is read unless it is left out of what is written. -/
theorem SourceField.ofSyntax?_eq (allOptional : Bool) (field : FieldSyntax) :
    ofSyntax? allOptional field =
      if field.isWritten then some (ofSyntax allOptional field) else none := by
  by_cases hskipped : (SerdeFlags.ofAttributes field.attributes).skipped = true <;>
    simp [ofSyntax?, FieldSyntax.isWritten, ofSyntax, hskipped]

/-- The fields that are read are those that are not left out. -/
theorem SourceField.filterMap_ofSyntax? (allOptional : Bool) (fields : List FieldSyntax) :
    fields.filterMap (ofSyntax? allOptional) =
      (fields.filter FieldSyntax.isWritten).map (ofSyntax allOptional) := by
  rw [← List.filterMap_eq_map, List.filterMap_filter]
  exact List.filterMap_congr fun field _ => ofSyntax?_eq allOptional field

/-! ### Types -/

namespace SourceType

variable {d : DefinitionSyntax} {t : SourceType}

/-- An enum has no fields, and it is no tuple. -/
theorem shapeOfVariants_cases (variants : List VariantSyntax) :
    (∃ values, shapeOfVariants variants = .enumeration values) ∨
      shapeOfVariants variants = .polymorphic := by
  unfold shapeOfVariants
  dsimp only
  split
  · exact .inl ⟨_, rfl⟩
  · exact .inr rfl

/-- Every definition is a type, apart from unions. -/
@[simp]
theorem ofSyntax?_eq_none_iff : ofSyntax? d = none ↔ d.body = .union := by
  obtain ⟨attributes, name, generics, body⟩ := d
  cases body with
  | struct fields => cases fields <;> simp [ofSyntax?]
  | enumeration => simp [ofSyntax?]
  | union => exact iff_of_true rfl rfl

/-- A type has the name of its definition. -/
theorem name_of_ofSyntax? (h : ofSyntax? d = some t) : t.name = d.name.name := by
  unfold ofSyntax? at h
  split at h <;> cases h <;> rfl

/-- A type asks for a schema if it derives one. -/
theorem eligible_of_ofSyntax? (h : ofSyntax? d = some t) :
    t.eligible = d.attributes.any (·.derives schemaTrait) := by
  unfold ofSyntax? at h
  split at h <;> cases h <;> rfl

/-- The comment of a type is that of its definition. -/
theorem comment_of_ofSyntax? (h : ofSyntax? d = some t) :
    t.comment = Attribute.docText d.attributes := by
  unfold ofSyntax? at h
  split at h <;> cases h <;> rfl

/-- The fields of a type are those that are written in its definition. -/
theorem fields_of_ofSyntax? (h : ofSyntax? d = some t) :
    t.fields = (d.fields.filter FieldSyntax.isWritten).map
      (SourceField.ofSyntax (SerdeFlags.ofAttributes d.attributes).optional) := by
  obtain ⟨attributes, name, generics, body⟩ := d
  cases body with
  | struct fields =>
    cases fields with
    | named fields =>
      cases h
      exact SourceField.filterMap_ofSyntax? _ fields
    | unit | unnamed =>
      cases h
      rfl
  | enumeration variants =>
    cases h
    simp only [fields]
    obtain ⟨values, hshape⟩ | hshape := shapeOfVariants_cases variants <;> rw [hshape] <;> rfl
  | union => cases h

/-- A type is a tuple if its fields have no names. -/
theorem shape_ne_tuple_iff_of_ofSyntax? (h : ofSyntax? d = some t) :
    t.shape ≠ .tuple ↔ d.IsNamed := by
  obtain ⟨attributes, name, generics, body⟩ := d
  cases body with
  | struct fields =>
    cases fields with
    | named | unit =>
      cases h
      exact iff_of_true nofun trivial
    | unnamed =>
      cases h
      exact iff_of_false (fun hne => hne rfl) not_false
  | enumeration variants =>
    cases h
    refine iff_of_true ?_ trivial
    obtain ⟨values, hshape⟩ | hshape := shapeOfVariants_cases variants <;> rw [hshape] <;> nofun
  | union => cases h

/-- A type has another name if its definition or one of its variants has. -/
theorem renamed_of_ofSyntax? (h : ofSyntax? d = some t) :
    t.renamed = ((SerdeFlags.ofAttributes d.attributes).renamed ||
      d.variants.any fun v => (SerdeFlags.ofAttributes v.attributes).renamed) := by
  obtain ⟨attributes, name, generics, body⟩ := d
  cases body with
  | struct fields => cases fields <;> cases h <;> exact (Bool.or_false _).symm
  | enumeration variants =>
    cases h
    rfl
  | union => cases h

/-- **The documentation of a type** is that of its definition. -/
theorem doc_of_ofSyntax? (h : ofSyntax? d = some t) : t.doc = d.doc := by
  unfold doc DefinitionSyntax.doc DefinitionSyntax.comments
  rw [comment_of_ofSyntax? h, fields_of_ofSyntax? h, List.map_map]
  rfl

/-- A type is not rejected if its fields have names, and neither it nor a field has another name or is
inlined. -/
theorem rejection?_eq_none_iff {t : SourceType} :
    t.rejection? = none ↔ t.shape ≠ .tuple ∧ t.renamed = false ∧
      ∀ field ∈ t.fields, field.renamed = false ∧ field.flattened = false := by
  unfold rejection?
  by_cases hshape : t.shape = .tuple
  · simp [hshape]
  by_cases hrenamed : t.renamed = true
  · simp [hshape, hrenamed]
  rw [if_neg hshape, if_neg hrenamed]
  cases hfind : t.fields.find? SourceField.renamed with
  | some field =>
    have hfield : field ∈ t.fields ∧ field.renamed = true :=
      ⟨List.mem_of_find?_eq_some hfind, List.find?_some hfind⟩
    refine iff_of_false nofun fun h => ?_
    rw [(h.2.2 field hfield.1).1] at hfield
    cases hfield.2
  | none =>
    have hnone : ∀ field ∈ t.fields, field.renamed = false := by
      simpa using List.find?_eq_none.1 hfind
    cases hflatten : t.fields.find? SourceField.flattened with
    | some field =>
      have hfield : field ∈ t.fields ∧ field.flattened = true :=
        ⟨List.mem_of_find?_eq_some hflatten, List.find?_some hflatten⟩
      refine iff_of_false nofun fun h => ?_
      rw [(h.2.2 field hfield.1).2] at hfield
      cases hfield.2
    | none =>
      have hplain : ∀ field ∈ t.fields, field.flattened = false := by
        simpa using List.find?_eq_none.1 hflatten
      exact iff_of_true rfl ⟨hshape, Bool.not_eq_true _ ▸ hrenamed,
        fun field hfield => ⟨hnone field hfield, hplain field hfield⟩⟩

/-- **What is looked at when a type is rejected.** -/
theorem rejection?_of_ofSyntax? (h : ofSyntax? d = some t) :
    t.rejection? = none ↔ d.IsNamed ∧ (SerdeFlags.ofAttributes d.attributes).renamed = false ∧
      (∀ field ∈ d.fields, field.isWritten = true →
        (SerdeFlags.ofAttributes field.attributes).renamed = false ∧
          (SerdeFlags.ofAttributes field.attributes).flattened = false) ∧
        ∀ v ∈ d.variants, (SerdeFlags.ofAttributes v.attributes).renamed = false := by
  rw [rejection?_eq_none_iff, shape_ne_tuple_iff_of_ofSyntax? h, renamed_of_ofSyntax? h,
    fields_of_ofSyntax? h, List.forall_mem_map, Bool.or_eq_false_iff, List.any_eq_false]
  simp only [List.mem_filter, and_imp, Bool.not_eq_true, SourceField.ofSyntax]
  tauto

end SourceType

/-! ### Tables -/

namespace SourceTable

variable {table : SourceTable} {name : String}

/-- Does a table report the type of a name, for what it is or for its doc comments? -/
def Reports (table : SourceTable) (name : String) : Prop :=
  (∃ e, (name, e) ∈ table.rejections) ∨ ∃ e, (name, e) ∈ table.docRegistry.value.2

/-- A type whose doc comments are refused, with the reason. -/
def docFailure? (t : SourceType) : Option (String × DocError) :=
  match t.doc with
  | .ok _ => none
  | .error e => some (t.name, e)

/-- The doc comments that are refused are reported in the order of the types. -/
theorem failures_registerAll (b : DocRegistry.Builder) (failures : List (String × DocError))
    (types : List SourceType) :
    (registerAll b failures types).value.2 = failures.reverse ++ types.filterMap docFailure? := by
  induction types generalizing b failures with
  | nil => exact (List.append_nil _).symm
  | cons t rest ih =>
    unfold registerAll
    rw [List.filterMap_cons]
    unfold docFailure?
    cases t.doc with
    | ok docs => exact ih _ failures
    | error e =>
      refine (ih b _).trans ?_
      rw [List.reverse_cons, List.append_assoc]
      rfl

/-- The doc comments that a table reports are those of its types that derive a schema. -/
theorem failures_docRegistry (table : SourceTable) :
    table.docRegistry.value.2 = table.eligibleTypes.filterMap docFailure? :=
  failures_registerAll {} [] table.eligibleTypes

/-- The one type of a name that is reported, if any, is the one that stands under the name. -/
theorem eq_of_mem_eligibleTypes {P : SourceType → Prop} (htypes : table.AllTypes P)
    {t u : SourceType} (ht : table.types.get? t.name = some t) (hu : u ∈ table.eligibleTypes)
    (hname : u.name = t.name) : u = t := by
  obtain ⟨entry, hentry, rfl⟩ := List.mem_map.1 (List.mem_filter.1 hu).1
  have hkey : entry.1 = t.name := (htypes entry hentry).1.trans hname
  have hget : table.types.get? entry.1 = some entry.2 := OrderedMap.get?_eq_some_iff.2 hentry
  rw [hkey, ht] at hget
  exact (Option.some.inj hget).symm

/-- If a report gives each type its own name, then under the name of a type there is only what is
reported of it. -/
theorem exists_mem_report_iff {ε : Type} {P : SourceType → Prop} (htypes : table.AllTypes P)
    {report? : SourceType → Option (String × ε)}
    (hnamed : ∀ u entry, report? u = some entry → entry.1 = u.name) {t : SourceType}
    (ht : table.types.get? t.name = some t) (heligible : t.eligible = true) :
    (∃ e, (t.name, e) ∈ table.eligibleTypes.filterMap report?) ↔ (report? t).isSome = true := by
  constructor
  · rintro ⟨e, he⟩
    obtain ⟨u, hu, hentry⟩ := List.mem_filterMap.1 he
    obtain rfl := eq_of_mem_eligibleTypes htypes ht hu (hnamed u _ hentry).symm
    rw [hentry]
    rfl
  · intro h
    obtain ⟨entry, hentry⟩ := Option.isSome_iff_exists.1 h
    have hmem : t ∈ table.eligibleTypes :=
      List.mem_filter.2 ⟨List.mem_map_of_mem (OrderedMap.get?_eq_some_iff.1 ht), heligible⟩
    refine ⟨entry.2, List.mem_filterMap.2 ⟨t, hmem, ?_⟩⟩
    rw [hentry, ← hnamed t entry hentry]

/-- **What is reported of a type that derives a schema** is of its own making. -/
theorem not_reports_iff {P : SourceType → Prop} (htypes : table.AllTypes P) {t : SourceType}
    (ht : table.types.get? t.name = some t) (heligible : t.eligible = true) :
    ¬ table.Reports t.name ↔ t.rejection? = none ∧ ∃ docs, t.doc = .ok docs := by
  have hrejected : (∃ e, (t.name, e) ∈ table.rejections) ↔
      (t.rejection?.map fun e => (t.name, e)).isSome = true := by
    refine exists_mem_report_iff htypes (fun u entry h => ?_) ht heligible
    obtain ⟨e, -, rfl⟩ := Option.map_eq_some_iff.1 h
    rfl
  have hundocumented : (∃ e, (t.name, e) ∈ table.docRegistry.value.2) ↔
      (docFailure? t).isSome = true := by
    rw [failures_docRegistry]
    refine exists_mem_report_iff htypes (fun u entry h => ?_) ht heligible
    unfold docFailure? at h
    split at h <;> cases h
    rfl
  rw [Reports, hrejected, hundocumented, not_or]
  refine and_congr ?_ ?_
  · cases t.rejection? <;> simp
  · unfold docFailure?
    cases t.doc <;> simp

end SourceTable

end TypeSchema
