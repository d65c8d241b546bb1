import TypeSchema.Proofs.Source.Definition

/-!
# Which types are refused

A derive refuses a type at once, and a table of sources reports it. For definitions whose attributes
can be read (`WellAnnotated`), both look at the same names, inlined fields and comments, but the
report **passes over what is wrong with a field that is left out**, and over inlining said of a type
or a variant (`Unnoticed`).

* `exists_ofSyntax_iff` says which definitions a derive accepts.
* `refused_iff_reported`: a derive refuses exactly those that are reported or have something
  unnoticed.
-/

namespace TypeSchema

open Source (Attribute DefinitionSyntax FieldSyntax SerdeFlags Token VariantSyntax)

/-! ### Attributes that can be read -/

namespace Derive

/-- Does a field have at most one `koja` attribute, which says that there is a default? -/
def SaysDefaultAtMost (attributes : List Attribute) : Prop :=
  attributes.filter (·.isNamed "koja") = [] ∨
    ∃ a, attributes.filter (·.isNamed "koja") = [a] ∧ a.body = .list [Token.plain "default"]

/-- A field of which no more than a default is said is understood. -/
theorem fieldDefault_of_saysDefaultAtMost {attributes : List Attribute}
    (h : SaysDefaultAtMost attributes) : ∃ value, fieldDefault attributes = .ok value := by
  unfold fieldDefault kojaValues
  obtain hnone | ⟨a, hone, hbody⟩ := h
  · rw [hnone]
    exact ⟨false, rfl⟩
  · have hvalues : defaultKeys? a = some [true] := by
      unfold defaultKeys?
      rw [hbody]
      rfl
    rw [hone, List.mapM_cons, List.mapM_nil, hvalues]
    exact ⟨true, rfl⟩

/-- A type without `koja` attributes is accepted. -/
theorem checkContainer_of_forall {attributes : List Attribute}
    (h : ∀ a ∈ attributes, a.isNamed "koja" = false) : checkContainer attributes = .ok () := by
  unfold checkContainer kojaValues
  rw [List.filter_eq_nil_iff.2 fun a ha => by simp [h a ha]]
  rfl

end Derive

namespace Source.DefinitionSyntax

/-- Can all `serde` attributes be read, and does the only `koja` attribute that fields have say that
there is a default? -/
structure WellAnnotated (d : DefinitionSyntax) : Prop where
  /-- All `serde` attributes can be read. -/
  serde : ∀ attributes ∈ d.annotations, ∀ a ∈ attributes, a.isNamed "serde" = true →
    a.keys.complete = true
  /-- The type itself has no `koja` attribute. -/
  container : ∀ a ∈ d.attributes, a.isNamed "koja" = false
  /-- A field has one at most. -/
  fields : ∀ field ∈ d.fields, Derive.SaysDefaultAtMost field.attributes

/-- Is something wrong with the attributes that no report looks at: would the type or a variant be
inlined, or a field that is left out, or would that have another name? -/
def Unnoticed (d : DefinitionSyntax) : Prop :=
  (SerdeFlags.ofAttributes d.attributes).flattened = true ∨
    (∃ field ∈ d.fields, field.isWritten = false ∧
      ((SerdeFlags.ofAttributes field.attributes).renamed = true ∨
        (SerdeFlags.ofAttributes field.attributes).flattened = true)) ∨
    ∃ v ∈ d.variants, (SerdeFlags.ofAttributes v.attributes).flattened = true

instance : DecidablePred Unnoticed := fun _ => inferInstanceAs (Decidable (_ ∨ _ ∨ _))

end Source.DefinitionSyntax

/-! ### Refusal and report -/

namespace Expansion

variable {d : DefinitionSyntax} {t : SourceType}

/-- **The definitions that a derive accepts**: no name is changed and nothing is inlined anywhere, and
the comments can be read. -/
theorem exists_ofSyntax_iff (h : d.WellAnnotated) :
    (∃ e, ofSyntax d = .ok e) ↔
      d.IsNamed ∧ (∀ attributes ∈ d.annotations,
        (SerdeFlags.ofAttributes attributes).renamed = false ∧
          (SerdeFlags.ofAttributes attributes).flattened = false) ∧ ∃ docs, d.doc = .ok docs := by
  have haccepted : (∀ attributes ∈ d.annotations, Derive.Accepted attributes) ↔
      ∀ attributes ∈ d.annotations, (SerdeFlags.ofAttributes attributes).renamed = false ∧
        (SerdeFlags.ofAttributes attributes).flattened = false :=
    forall₂_congr fun attributes hmem =>
      Derive.SerdeOptions.exists_ofAttributes_iff (h.serde attributes hmem)
  rw [← haccepted]
  constructor
  · rintro ⟨e, he⟩
    obtain ⟨hnamed, -, -, hall, hdocs, -⟩ := ofSyntax_eq_ok_iff.1 he
    exact ⟨hnamed, hall, e.docs, hdocs⟩
  · rintro ⟨hnamed, hall, docs, hdocs⟩
    exact ⟨⟨Derive.Shape.ofSyntax d, docs⟩, ofSyntax_eq_ok_iff.2 ⟨hnamed,
      Derive.checkContainer_of_forall h.container,
      fun field hfield => Derive.fieldDefault_of_saysDefaultAtMost (h.fields field hfield), hall,
      hdocs, rfl⟩⟩

/-- Names and inlining are looked at everywhere: where a report looks, and where none does. -/
theorem forall_annotations_iff_not_unnoticed :
    (∀ attributes ∈ d.annotations, (SerdeFlags.ofAttributes attributes).renamed = false ∧
        (SerdeFlags.ofAttributes attributes).flattened = false) ↔
      ((SerdeFlags.ofAttributes d.attributes).renamed = false ∧
        (∀ field ∈ d.fields, field.isWritten = true →
          (SerdeFlags.ofAttributes field.attributes).renamed = false ∧
            (SerdeFlags.ofAttributes field.attributes).flattened = false) ∧
          ∀ v ∈ d.variants, (SerdeFlags.ofAttributes v.attributes).renamed = false) ∧
        ¬ d.Unnoticed := by
  rw [DefinitionSyntax.forall_annotations_iff]
  unfold DefinitionSyntax.Unnoticed
  simp only [not_or, not_exists, not_and, Bool.not_eq_true]
  constructor
  · rintro ⟨hcontainer, hfields, hvariants⟩
    exact ⟨⟨hcontainer.1, fun field hfield _ => hfields field hfield,
      fun v hv => (hvariants v hv).1⟩, hcontainer.2, fun field hfield _ => hfields field hfield,
      fun v hv => (hvariants v hv).2⟩
  · rintro ⟨⟨hrenamed, hwritten, hvariants⟩, hflattened, hskipped, hinlined⟩
    refine ⟨⟨hrenamed, hflattened⟩, fun field hfield => ?_,
      fun v hv => ⟨hvariants v hv, hinlined v hv⟩⟩
    cases hfieldwritten : field.isWritten with
    | true => exact hwritten field hfield hfieldwritten
    | false => exact hskipped field hfield hfieldwritten

/-- **Which definitions a derive refuses.** Let a type stand in a table of any types under its name and
derive a schema, and let its attributes be readable. A derive refuses its definition if and only if
the table reports it, or there is something wrong with it that no report looks at. -/
theorem refused_iff_reported {types : List SourceType} (h : d.WellAnnotated)
    (hderives : d.attributes.any (·.derives schemaTrait) = true)
    (ht : SourceType.ofSyntax? d = some t)
    (hstands : (SourceTable.empty.insertAll types).value.types.get? t.name = some t) :
    (∃ error, ofSyntax d = .error error) ↔
      (SourceTable.empty.insertAll types).value.Reports t.name ∨ d.Unnoticed := by
  have htypes : (SourceTable.empty.insertAll types).value.AllTypes fun _ => True :=
    SourceTable.allTypes_empty.insertAll fun _ _ => trivial
  have heligible : t.eligible = true := (SourceType.eligible_of_ofSyntax? ht).trans hderives
  have hrefused : (∃ error, ofSyntax d = .error error) ↔ ¬ ∃ e, ofSyntax d = .ok e := by
    cases ofSyntax d <;> simp
  rw [hrefused, not_iff_comm, not_or, SourceTable.not_reports_iff htypes hstands heligible,
    SourceType.rejection?_of_ofSyntax? ht, SourceType.doc_of_ofSyntax? ht, exists_ofSyntax_iff h,
    forall_annotations_iff_not_unnoticed]
  tauto

/-- A `serde` attribute. -/
def serde (tokens : List Token) : Attribute := { path := [{ name := "serde" }], body := .list tokens }

/-- A struct with two fields: `number` has a default, and `key` has the given attributes. -/
def account (attributes : List Attribute) : DefinitionSyntax where
  attributes := [{ path := [{ name := "derive" }], body := .list [Token.plain "JsonSchema"] }]
  name := { name := "Account" }
  generics := {}
  body := .struct (.named
    [{ attributes := [{ path := [{ name := "koja" }], body := .list [Token.plain "default"] }]
       name := { name := "number" }
       type := .path { name := "u8" } [] true [Token.plain "u8"]
       typeTokens := [Token.plain "u8"] },
     { attributes
       name := { name := "key" }
       type := .path { name := "u8" } [] true [Token.plain "u8"]
       typeTokens := [Token.plain "u8"] }])

/-- The type of the struct, with what is read of `key`. -/
def accountType (key : List SourceField) : SourceType where
  name := "Account"
  eligible := true
  comment := none
  shape := .object ({ SourceTable.plainField "number" (.primitive .byte) with optional := true } ::
    key)
  renamed := false

/-- A field that has a default and would be inlined is refused, and reported. -/
theorem refused_iff_reported_account :
    let d := account [serde [Token.plain "default", .punct ',' false, Token.plain "flatten"]]
    let key := { SourceTable.plainField "key" (.primitive .byte) with
      optional := true, flattened := true }
    let table := (SourceTable.empty.insertAll [accountType [key]]).value
    SourceType.ofSyntax? d = some (accountType [key]) ∧
      ((∃ error, ofSyntax d = .error error) ↔ table.Reports "Account" ∨ d.Unnoticed) ∧
        table.Reports "Account" ∧ ¬ d.Unnoticed := by
  intro d key table
  have hannotated : d.WellAnnotated :=
    { serde := by decide
      container := by decide
      fields := List.forall_mem_cons.2 ⟨.inr ⟨_, rfl, rfl⟩,
        List.forall_mem_singleton.2 (.inl rfl)⟩ }
  have htype : SourceType.ofSyntax? d = some (accountType [key]) := by rfl
  have hrejections : table.rejections = [("Account", ⟨.flattened, ["Account.key"]⟩)] := by cbv
  exact ⟨htype, refused_iff_reported hannotated (by decide) htype rfl,
    .inl ⟨_, hrejections ▸ List.mem_singleton_self _⟩, by decide⟩

/-- If the field is left out and has another name, it is refused and nothing is reported. -/
theorem refused_unreported_account :
    let d := account [serde [Token.plain "skip", .punct ',' false, Token.plain "rename",
      .punct '=' false, .literal "\"id\""]]
    let table := (SourceTable.empty.insertAll [accountType []]).value
    SourceType.ofSyntax? d = some (accountType []) ∧ ofSyntax d = .error .renamed ∧
      ¬ table.Reports "Account" ∧ d.Unnoticed := by
  intro d table
  have hrejections : table.rejections = [] := by cbv
  have hdocs : table.docRegistry.value.2 = [] := by cbv
  refine ⟨by rfl, by rfl, ?_, by decide⟩
  rw [SourceTable.Reports, hrejections, hdocs]
  simp

end Expansion

end TypeSchema
