import TypeSchema.Proofs.Derive.Default
import TypeSchema.Proofs.Derive.Verdict

/-!
# One description of a type

A type whose derive succeeds is not rejected when its source is read, and both have the same
documentation and describe the same shape: `described_eq_of_ofSyntax`. Fields must **say plainly**
whether they have a default; `described_ne_account` is a field that says it has none, and has one
when its source is read.
-/

namespace TypeSchema

open Source (Attribute DefinitionSyntax FieldSyntax SerdeFlags Token VariantSyntax keysOf)

/-! ### Descriptions -/

namespace Derive

instance : DecidablePred SaysPlainly := fun _ => inferInstanceAs (Decidable (_ → _))

/-- The field as part of a definition, with its type as it is written. -/
def Field.fieldDef (field : Field) : FieldDef where
  name := field.name.name
  type := .ofSyntax field.type
  optional := field.optional

/-- The shape of the definition that an expansion describes. -/
def Shape.described : Shape → TypeSchema.Shape
  | object fields => .object (fields.map Field.fieldDef)
  | enumeration values => .enumeration values
  | polymorphic => .polymorphic

/-- A derive and the flags agree on the default of a type that is accepted. -/
theorem optional_container {attributes : List Attribute}
    (h : checkContainer attributes = .ok ()) :
    (SerdeFlags.ofAttributes attributes).optional = (said attributes).optional := by
  rw [SerdeFlags.ofAttributes_eq, keysOf_of_checkContainer h]
  exact Bool.or_false _

/-- They agree on the default of a field that says plainly whether it has one. -/
theorem optional_field {attributes : List Attribute}
    (h : ∃ value, fieldDefault attributes = .ok value)
    (hplain : ∀ a ∈ attributes, SaysPlainly a) :
    (SerdeFlags.ofAttributes attributes).optional =
      (saysDefault attributes || (said attributes).optional) := by
  obtain ⟨value, hvalue⟩ := h
  rw [SerdeFlags.ofAttributes_eq, saysDefault_of_eq_ok hvalue,
    ← any_isDefault_of_fieldDefault hvalue hplain, Bool.or_comm]
  rfl

/-- A field is described alike. -/
theorem fieldDef_ofSyntax {container : List Attribute} {field : FieldSyntax}
    (hcontainer : checkContainer container = .ok ()) (hfield : Understood field)
    (hplain : ∀ a ∈ field.attributes, SaysPlainly a) :
    (SourceField.ofSyntax (SerdeFlags.ofAttributes container).optional field).fieldDef =
      (Field.ofSyntax (said container).optional field).fieldDef := by
  have hoptional : ((SerdeFlags.ofAttributes container).optional ||
        (SerdeFlags.ofAttributes field.attributes).optional) =
      (saysDefault field.attributes || (said field.attributes).optional ||
        (said container).optional) := by
    rw [optional_container hcontainer, optional_field hfield hplain, Bool.or_comm]
  simp only [SourceField.fieldDef, SourceField.ofSyntax, Field.fieldDef, Field.ofSyntax, hoptional]

end Derive

namespace Expansion

variable {d : DefinitionSyntax} {e : Expansion} {t : SourceType}

/-- What a derive accepts is not rejected. -/
theorem rejection?_of_ofSyntax (h : ofSyntax d = .ok e) (ht : SourceType.ofSyntax? d = some t) :
    t.rejection? = none := by
  obtain ⟨hnamed, -, -, hall, -, -⟩ := ofSyntax_eq_ok_iff.1 h
  have hplain : ∀ attributes ∈ d.annotations, (SerdeFlags.ofAttributes attributes).renamed = false ∧
      (SerdeFlags.ofAttributes attributes).flattened = false := by
    intro attributes hmem
    obtain ⟨o, ho⟩ := hall attributes hmem
    exact Derive.SerdeOptions.plain_iff_flags.1
      (Derive.SerdeOptions.ofAttributes_eq_ok_iff.1 ho).2.1
  exact (SourceType.rejection?_of_ofSyntax? ht).2
    ⟨hnamed, (forall_annotations_iff_not_unnoticed.1 hplain).1⟩

/-- The shapes of a definition are described alike. -/
theorem shape_of_ofSyntax (h : ofSyntax d = .ok e) (ht : SourceType.ofSyntax? d = some t)
    (hplain : ∀ field ∈ d.fields, field.isWritten = true →
      ∀ a ∈ field.attributes, Derive.SaysPlainly a) :
    t.definition.shape = (Derive.Shape.ofSyntax d).described := by
  obtain ⟨hnamed, hcontainer, hfields, -, -, -⟩ := ofSyntax_eq_ok_iff.1 h
  have hwritten : t.fields.map SourceField.fieldDef =
      ((d.fields.filter FieldSyntax.isWritten).map
        (Derive.Field.ofSyntax (Derive.said d.attributes).optional)).map Derive.Field.fieldDef := by
    rw [SourceType.fields_of_ofSyntax? ht, List.map_map, List.map_map]
    refine List.map_congr_left fun field hfield => ?_
    obtain ⟨hmem, hfieldwritten⟩ := List.mem_filter.1 hfield
    exact Derive.fieldDef_ofSyntax hcontainer (hfields field hmem) (hplain field hmem hfieldwritten)
  obtain ⟨attributes, name, generics, body⟩ := d
  cases body with
  | struct fields =>
    cases fields with
    | named | unit =>
      cases ht
      exact congrArg Shape.object hwritten
    | unnamed => exact hnamed.elim
  | enumeration variants =>
    cases ht
    have hfilter : (variants.filter fun v => !(SerdeFlags.ofAttributes v.attributes).skipped) =
        variants.filter VariantSyntax.isWritten := rfl
    simp only [SourceType.definition, SourceType.shapeOfVariants, Derive.Shape.ofSyntax, hfilter]
    by_cases hunits : (variants.filter VariantSyntax.isWritten).all VariantSyntax.isUnit = true
    · rw [if_pos hunits, if_pos hunits]
      rfl
    · rw [if_neg hunits, if_neg hunits]
      rfl
  | union => cases ht

/-- **A derive describes the type that its source describes.** Let a derive accept a definition, and let
the fields that are written say plainly whether they have a default. Reading the source rejects
nothing and gives the same documentation and the same shape: the fields in order with their names,
types as they are written and defaults, or the names of an enum in order, or one of several shapes. -/
theorem described_eq_of_ofSyntax (h : ofSyntax d = .ok e) (ht : SourceType.ofSyntax? d = some t)
    (hplain : ∀ field ∈ d.fields, field.isWritten = true →
      ∀ a ∈ field.attributes, Derive.SaysPlainly a) :
    t.rejection? = none ∧ t.doc = .ok e.docs ∧ t.definition.shape = e.shape.described := by
  obtain ⟨-, -, -, -, hdocs, hshape⟩ := ofSyntax_eq_ok_iff.1 h
  refine ⟨rejection?_of_ofSyntax h ht, ?_, ?_⟩
  · rw [SourceType.doc_of_ofSyntax? ht, hdocs]
  · rw [← hshape, shape_of_ofSyntax h ht hplain]

/-- A `koja` attribute. -/
def koja (tokens : List Token) : Attribute := { path := [{ name := "koja" }], body := .list tokens }

/-- A key that has a default and a text of its own is described alike. -/
theorem described_eq_account :
    let d := account
      [koja [Token.plain "default", .punct '=' false, Token.plain "true", .punct ',' false],
        { path := [{ name := "doc" }], body := .value (some "A secret.") }]
    ∃ e t, ofSyntax d = .ok e ∧ SourceType.ofSyntax? d = some t ∧
      t.rejection? = none ∧ t.doc = .ok e.docs ∧ t.definition.shape = e.shape.described := by
  intro d
  have hplain : ∀ field ∈ d.fields, field.isWritten = true →
      ∀ a ∈ field.attributes, Derive.SaysPlainly a := by decide
  obtain ⟨e, he⟩ : ∃ e, ofSyntax d = .ok e := ⟨_, rfl⟩
  obtain ⟨t, ht⟩ : ∃ t, SourceType.ofSyntax? d = some t := ⟨_, rfl⟩
  exact ⟨e, t, he, ht, described_eq_of_ofSyntax he ht hplain⟩

/-- A key that says that it has no default has none for a derive, and has one when its source is
read. -/
theorem described_ne_account :
    let d := account [koja [Token.plain "default", .punct '=' false, Token.plain "false"]]
    let fields (optional : Bool) : List FieldDef :=
      [{ name := "number", type := .primitive .byte, optional := true },
        { name := "key", type := .primitive .byte, optional }]
    (∃ e, ofSyntax d = .ok e ∧ e.shape.described = .object (fields false)) ∧
      ∃ t, SourceType.ofSyntax? d = some t ∧ t.rejection? = none ∧
        t.definition.shape = .object (fields true) :=
  ⟨⟨_, rfl, rfl⟩, _, rfl, rfl, rfl⟩

end Expansion

end TypeSchema
