import TypeSchema.Proofs.Doc.Grammar
import TypeSchema.Source.Definition

/-!
# Comments of types and of fields

The documentation of a type is what its comment says, and after it what the own comments of its fields
say. A field is described once, by a tag or by its own comment.

* `ownTexts` are the texts that fields give themselves. `Mergeable` says when they can be added to what
  is said already, and `Rejects` what is wrong with the comment of one field.
* `addFieldDocs_singleton_eq_ok_iff` and `addFieldDocs_singleton_eq_error_iff` are the adding of one
  comment, `addFieldDocs_eq_ok_iff` and `addFieldDocs_eq_error_iff` that of all in turn: texts go **to
  the end, in order**, up to the first field that is refused.
* `run_keepField`: where documentation is kept and changed, a text that is refused leaves it as it was.
* `doc_of_comments` starts from the type.
-/

namespace TypeSchema

/-- Documentation with the same description and the same entries is the same. -/
theorem DocMetadata.eq_of_entries {doc other : DocMetadata}
    (hdescription : doc.description = other.description)
    (hentries : doc.fields.entries = other.fields.entries) : doc = other := by
  cases doc
  cases other
  rw [DocMetadata.mk.injEq]
  exact ⟨hdescription, OrderedMap.eq_of_entries hentries⟩

namespace Doc

open Text (words)

/-! ### What fields say of themselves -/

/-- The text of a field's own comment, if there is a word in it: the words with single blanks between
them. A field without a comment says nothing. -/
def ownText? (comment : Option String) : Option String :=
  match words (comment.getD "") with
  | [] => none
  | ws => some (" ".intercalate ws)

/-- The texts that fields give themselves, in order, with the names of the fields. -/
def ownTexts (fields : List (String × Option String)) : List (String × String) :=
  fields.filterMap fun field => (ownText? field.2).map fun text => (field.1, text)

/-- The names of the fields that give themselves a text. -/
def ownNames (fields : List (String × Option String)) : List String :=
  (ownTexts fields).map Prod.fst

/-- Is no word of the comment a tag? -/
def Untagged (comment : Option String) : Prop :=
  ∀ w ∈ words (comment.getD ""), isTag w = false

/-- Can the own comments of fields be added, one after the other, where some fields are described? -/
structure Mergeable (described : List String) (fields : List (String × Option String)) : Prop where
  /-- There are no tags in them. -/
  untagged : ∀ field ∈ fields, Untagged field.2
  /-- A field that gives itself a text is not described, nor is it by a field of its name before. -/
  fresh : ∀ before field after, fields = before ++ field :: after → (ownText? field.2).isSome = true →
    field.1 ∉ described ∧ field.1 ∉ ownNames before

/-- What is wrong with the own comment of a field where some fields are described: the first tag in
it or, if there is none, that it gives a text to a field that has one. -/
inductive Rejects (described : List String) (field : String × Option String) : DocError → Prop where
  /-- There is a tag. -/
  | tag {before rest : List String} {tag : String}
      (hwords : words (field.2.getD "") = before ++ tag :: rest)
      (hbefore : ∀ w ∈ before, isTag w = false) (htag : isTag tag = true) :
      Rejects described field (.unsupportedTag tag)
  /-- The field is described. -/
  | conflict (huntagged : Untagged field.2) (htext : (ownText? field.2).isSome = true)
      (hdescribed : field.1 ∈ described) : Rejects described field (.conflictingFieldDoc field.1)

variable {described : List String} {field : String × Option String}
  {fields : List (String × Option String)} {doc after : DocMetadata} {e : DocError}

/-- The texts of fields are those of the first one and of the others. -/
theorem ownTexts_cons (field : String × Option String) (fields : List (String × Option String)) :
    ownTexts (field :: fields) = ownTexts [field] ++ ownTexts fields :=
  List.filterMap_append (l := [field])

/-- The names of fields with texts are those of the first one and of the others. -/
theorem ownNames_cons : ownNames (field :: fields) = ownNames [field] ++ ownNames fields := by
  rw [ownNames, ownTexts_cons, List.map_append]
  rfl

/-- Only fields give themselves texts. -/
theorem ownNames_subset (fields : List (String × Option String)) :
    ownNames fields ⊆ fields.map Prod.fst := by
  intro name hname
  obtain ⟨entry, hentry, rfl⟩ := List.mem_map.1 hname
  obtain ⟨field, hfield, htext⟩ := List.mem_filterMap.1 hentry
  obtain ⟨text, -, rfl⟩ := Option.map_eq_some_iff.1 htext
  exact List.mem_map_of_mem hfield

/-- Without fields there are no names. -/
@[simp] theorem ownNames_nil : ownNames [] = [] := rfl

/-- No texts can always be merged. -/
@[simp] theorem mergeable_nil : Mergeable described [] := ⟨by simp, by simp⟩

/-- The first comment is added to what is described, and the others after it. -/
theorem mergeable_cons_iff : Mergeable described (field :: fields) ↔
    Untagged field.2 ∧ ((ownText? field.2).isSome = true → field.1 ∉ described) ∧
      Mergeable (described ++ ownNames [field]) fields := by
  constructor
  · intro h
    obtain ⟨hfirst, hrest⟩ := List.forall_mem_cons.1 h.untagged
    refine ⟨hfirst, fun htext => (h.fresh [] field fields rfl htext).1, hrest, ?_⟩
    rintro before other after rfl htext
    have hother := h.fresh (field :: before) other after rfl htext
    rw [ownNames_cons, List.mem_append, not_or] at hother
    rw [List.mem_append, not_or]
    exact ⟨⟨hother.1, hother.2.1⟩, hother.2.2⟩
  · rintro ⟨hfirst, hnew, hrest⟩
    refine ⟨List.forall_mem_cons.2 ⟨hfirst, hrest.untagged⟩, ?_⟩
    intro before other after hfields htext
    cases before with
    | nil =>
      cases hfields
      exact ⟨hnew htext, List.not_mem_nil⟩
    | cons first before =>
      cases hfields
      have hother := hrest.fresh before other after rfl htext
      rw [List.mem_append, not_or] at hother
      rw [ownNames_cons, List.mem_append, not_or]
      exact ⟨hother.1.1, hother.1.2, hother.2⟩

/-- A comment that is refused cannot be added after others. -/
theorem Rejects.not_mergeable {before : List (String × Option String)}
    (h : Rejects (described ++ ownNames before) field e) :
    ¬ Mergeable described (before ++ field :: fields) := by
  intro hmerge
  cases h with
  | tag hwords _ htag =>
    have huntagged : Untagged field.2 := hmerge.untagged field (by simp)
    have hword := huntagged _ (hwords ▸ List.mem_append_right _ List.mem_cons_self)
    rw [htag] at hword
    cases hword
  | conflict _ htext hdescribed =>
    obtain ⟨hnew, hfirst⟩ := hmerge.fresh before field fields rfl htext
    exact (List.mem_append.1 hdescribed).elim hnew hfirst

/-! ### One comment -/

/-- Comments are added one after the other. -/
theorem addFieldDocs_cons : addFieldDocs doc (field :: fields) =
    match addFieldDocs doc [field] with
    | .error e => .error e
    | .ok between => addFieldDocs between fields := by
  obtain ⟨name, comment⟩ := field
  cases comment with
  | none => rfl
  | some text =>
    simp only [addFieldDocs]
    cases parseField text with
    | error e => rfl
    | ok said =>
      cases said with
      | none => rfl
      | some text => cases hinsert : doc.insertField name text <;> simp [hinsert]

/-- What is read of the comment of a field is added to the documentation; no comment is read as an
empty one. -/
theorem addFieldDocs_singleton : addFieldDocs doc [field] =
    match parseField (field.2.getD "") with
    | .error e => .error e
    | .ok none => .ok doc
    | .ok (some text) => doc.insertField field.1 text := by
  obtain ⟨name, comment⟩ := field
  cases comment with
  | none => rfl
  | some text =>
    simp only [addFieldDocs, Option.getD_some]
    cases parseField text with
    | error e => rfl
    | ok said =>
      cases said with
      | none => rfl
      | some text => cases hinsert : doc.insertField name text <;> simp [hinsert]

/-- The comment of a field is read if there is no tag in it, as the text that the field gives
itself. -/
theorem parseField_eq_ok_iff {comment said : Option String} :
    parseField (comment.getD "") = .ok said ↔ Untagged comment ∧ said = ownText? comment := by
  have htext : textOf? (words (comment.getD "")) = ownText? comment := by
    unfold textOf? ownText?
    cases words (comment.getD "") <;> rfl
  cases hfind : (words (comment.getD "")).find? isTag with
  | none =>
    have huntagged : Untagged comment := by simpa [Untagged] using hfind
    simp only [parseField, hfind, htext, Except.ok.injEq]
    exact ⟨fun h => ⟨huntagged, h.symm⟩, fun h => h.2.symm⟩
  | some tag =>
    simp only [parseField, hfind]
    refine iff_of_false nofun fun h => ?_
    have htag := List.find?_some hfind
    rw [h.1 tag (List.mem_of_find?_eq_some hfind)] at htag
    cases htag

/-- The comment of a field is refused for its first tag. -/
theorem parseField_eq_error_iff {text : String} :
    parseField text = .error e ↔ ∃ before tag rest, words text = before ++ tag :: rest ∧
      (∀ w ∈ before, isTag w = false) ∧ isTag tag = true ∧ e = .unsupportedTag tag := by
  cases hfind : (words text).find? isTag with
  | none =>
    simp only [parseField, hfind]
    refine iff_of_false nofun ?_
    rintro ⟨before, tag, rest, hwords, -, htag, -⟩
    rw [List.find?_eq_none] at hfind
    exact hfind tag (hwords ▸ by simp) htag
  | some first =>
    obtain ⟨hfirst, before, rest, hwords, hbefore⟩ := List.find?_eq_some_iff_append.1 hfind
    simp only [Bool.not_eq_true'] at hbefore
    simp only [parseField, hfind, Except.error.injEq]
    constructor
    · rintro rfl
      exact ⟨before, first, rest, hwords, hbefore, hfirst, rfl⟩
    · rintro ⟨before', tag, rest', hwords', hbefore', htag, rfl⟩
      have hfind' : (words text).find? isTag = some tag :=
        List.find?_eq_some_iff_append.2 ⟨htag, before', rest', hwords', by simpa using hbefore'⟩
      rw [hfind, Option.some.injEq] at hfind'
      rw [hfind']

/-- A text is added at the end, if the field has none. -/
theorem insertField_eq_ok_iff {name text : String} : doc.insertField name text = .ok after ↔
    name ∉ doc.fields.keys ∧ after.description = doc.description ∧
      after.fields.entries = doc.fields.entries ++ [(name, text)] := by
  rw [← OrderedMap.contains_iff_mem_keys, DocMetadata.insertField]
  obtain ⟨description, texts⟩ := after
  split
  · next hcontains => exact iff_of_false nofun fun h => h.1 hcontains
  · next hnew =>
    have hentries : (doc.fields.insert name text).entries = doc.fields.entries ++ [(name, text)] :=
      putEntry_of_not_mem (mt OrderedMap.contains_iff_mem_keys.2 hnew)
    simp only [Except.ok.injEq, DocMetadata.mk.injEq, ← hentries]
    constructor
    · rintro ⟨rfl, rfl⟩
      exact ⟨hnew, rfl, rfl⟩
    · rintro ⟨-, rfl, htexts⟩
      exact ⟨rfl, (OrderedMap.eq_of_entries htexts).symm⟩

/-- A text is refused if the field has one. -/
theorem insertField_eq_error_iff {name text : String} : doc.insertField name text = .error e ↔
    name ∈ doc.fields.keys ∧ e = .conflictingFieldDoc name := by
  rw [← OrderedMap.contains_iff_mem_keys, DocMetadata.insertField]
  split
  · next hcontains => simp [hcontains, eq_comm]
  · next hnew => simp [hnew]

/-- **The comment of one field** is added if it has no tag and the field is not described. Its text goes
to the end. -/
theorem addFieldDocs_singleton_eq_ok_iff : addFieldDocs doc [field] = .ok after ↔
    Untagged field.2 ∧ ((ownText? field.2).isSome = true → field.1 ∉ doc.fields.keys) ∧
      after.description = doc.description ∧
        after.fields.entries = doc.fields.entries ++ ownTexts [field] := by
  rw [addFieldDocs_singleton]
  cases hread : parseField (field.2.getD "") with
  | error e =>
    refine iff_of_false nofun fun h => ?_
    have hok := parseField_eq_ok_iff.2 ⟨h.1, rfl⟩
    rw [hread] at hok
    cases hok
  | ok said =>
    obtain ⟨huntagged, rfl⟩ := parseField_eq_ok_iff.1 hread
    cases htext : ownText? field.2 with
    | none =>
      have hnone : ownTexts [field] = [] := by simp [ownTexts, htext]
      simp only [hnone, List.append_nil, huntagged, true_and, Option.isSome_none,
        Bool.false_eq_true, false_implies, Except.ok.injEq]
      constructor
      · rintro rfl
        exact ⟨rfl, rfl⟩
      · rintro ⟨hdescription, hentries⟩
        exact (DocMetadata.eq_of_entries hdescription hentries).symm
    | some text =>
      have hone : ownTexts [field] = [(field.1, text)] := by simp [ownTexts, htext]
      simp only [hone, huntagged, true_and, Option.isSome_some, true_implies]
      exact insertField_eq_ok_iff

/-- **The comment of one field is refused** for what is wrong with it. -/
theorem addFieldDocs_singleton_eq_error_iff :
    addFieldDocs doc [field] = .error e ↔ Rejects doc.fields.keys field e := by
  rw [addFieldDocs_singleton]
  cases hread : parseField (field.2.getD "") with
  | error e' =>
    obtain ⟨before, tag, rest, hwords, hbefore, htag, rfl⟩ := parseField_eq_error_iff.1 hread
    constructor
    · rintro ⟨⟩
      exact .tag hwords hbefore htag
    · intro h
      cases h with
      | tag hwords' hbefore' htag' =>
        have herror := parseField_eq_error_iff.2 ⟨_, _, _, hwords', hbefore', htag', rfl⟩
        rw [hread, Except.error.injEq] at herror
        rw [herror]
      | conflict huntagged =>
        have hok := parseField_eq_ok_iff.2 ⟨huntagged, rfl⟩
        rw [hread] at hok
        cases hok
  | ok said =>
    obtain ⟨huntagged, rfl⟩ := parseField_eq_ok_iff.1 hread
    have htagged : Rejects doc.fields.keys field e ↔ (ownText? field.2).isSome = true ∧
        field.1 ∈ doc.fields.keys ∧ e = .conflictingFieldDoc field.1 := by
      constructor
      · intro h
        cases h with
        | tag hwords _ htag =>
          have hword := huntagged _ (hwords ▸ List.mem_append_right _ List.mem_cons_self)
          rw [htag] at hword
          cases hword
        | conflict _ htext hdescribed => exact ⟨htext, hdescribed, rfl⟩
      · rintro ⟨htext, hdescribed, rfl⟩
        exact .conflict huntagged htext hdescribed
    rw [htagged]
    cases ownText? field.2 with
    | none => simp
    | some text => simpa using insertField_eq_error_iff

/-! ### All comments in turn -/

/-- After the comment of a field is added, the field is described if it gives itself a text. -/
theorem keys_of_addFieldDocs_singleton (h : addFieldDocs doc [field] = .ok after) :
    after.fields.keys = doc.fields.keys ++ ownNames [field] := by
  obtain ⟨-, -, -, hentries⟩ := addFieldDocs_singleton_eq_ok_iff.1 h
  rw [OrderedMap.keys, hentries, List.map_append]
  rfl

/-- If the first comment is refused, the comments cannot be added. -/
theorem not_mergeable_of_error (h : addFieldDocs doc [field] = .error e) :
    ¬ Mergeable doc.fields.keys (field :: fields) := by
  have hrejects : Rejects (doc.fields.keys ++ ownNames []) field e := by
    rw [ownNames_nil, List.append_nil]
    exact addFieldDocs_singleton_eq_error_iff.1 h
  exact hrejects.not_mergeable

/-- **Comments are added** if they can be, and their texts go to the end, in order. -/
theorem addFieldDocs_eq_ok_iff : addFieldDocs doc fields = .ok after ↔
    Mergeable doc.fields.keys fields ∧ after.description = doc.description ∧
      after.fields.entries = doc.fields.entries ++ ownTexts fields := by
  induction fields generalizing doc with
  | nil =>
    simp only [addFieldDocs, Except.ok.injEq, mergeable_nil, true_and, ownTexts, List.filterMap_nil,
      List.append_nil]
    constructor
    · rintro rfl
      exact ⟨rfl, rfl⟩
    · rintro ⟨hdescription, hentries⟩
      exact (DocMetadata.eq_of_entries hdescription hentries).symm
  | cons field fields ih =>
    rw [addFieldDocs_cons]
    cases hfirst : addFieldDocs doc [field] with
    | error e => exact iff_of_false nofun fun h => not_mergeable_of_error hfirst h.1
    | ok between =>
      obtain ⟨huntagged, hnew, hdescription, hentries⟩ :=
        addFieldDocs_singleton_eq_ok_iff.1 hfirst
      show addFieldDocs between fields = .ok after ↔ _
      rw [ih, keys_of_addFieldDocs_singleton hfirst, mergeable_cons_iff, hdescription, hentries,
        ownTexts_cons field fields, List.append_assoc]
      exact ⟨fun h => ⟨⟨huntagged, hnew, h.1⟩, h.2⟩, fun h => ⟨h.1.2.2, h.2⟩⟩

/-- A blank comment adds nothing, not even where a tag describes the field. -/
example : (addFieldDocs (.ofList none [("x", "From a tag")])
      [("x", some " \n"), ("y", some "Its\n own"), ("z", none)]).map (fun doc => doc.fields.entries) =
    .ok [("x", "From a tag"), ("y", "Its own")] := by cbv

/-- **Comments are refused** at the first that is refused, after those before it were added. -/
theorem addFieldDocs_eq_error_iff : addFieldDocs doc fields = .error e ↔
    ∃ before field rest, fields = before ++ field :: rest ∧ Mergeable doc.fields.keys before ∧
      Rejects (doc.fields.keys ++ ownNames before) field e := by
  constructor
  · intro h
    induction fields generalizing doc with
    | nil => cases h
    | cons field fields ih =>
      rw [addFieldDocs_cons] at h
      cases hfirst : addFieldDocs doc [field] with
      | error e' =>
        rw [hfirst] at h
        cases h
        refine ⟨[], field, fields, rfl, mergeable_nil, ?_⟩
        rw [ownNames_nil, List.append_nil]
        exact addFieldDocs_singleton_eq_error_iff.1 hfirst
      | ok between =>
        rw [hfirst] at h
        obtain ⟨huntagged, hnew, -, -⟩ := addFieldDocs_singleton_eq_ok_iff.1 hfirst
        obtain ⟨before, other, rest, rfl, hbefore, hother⟩ := ih h
        rw [keys_of_addFieldDocs_singleton hfirst] at hbefore hother
        refine ⟨field :: before, other, rest, rfl,
          mergeable_cons_iff.2 ⟨huntagged, hnew, hbefore⟩, ?_⟩
        rwa [ownNames_cons, ← List.append_assoc]
  · rintro ⟨before, field, rest, rfl, hbefore, hrejects⟩
    -- What is described before the refused comment moves from the list to the documentation.
    induction before generalizing doc with
    | nil =>
      rw [ownNames_nil, List.append_nil] at hrejects
      rw [List.nil_append, addFieldDocs_cons, addFieldDocs_singleton_eq_error_iff.2 hrejects]
    | cons first before ih =>
      rw [List.cons_append, addFieldDocs_cons]
      cases hfirst : addFieldDocs doc [first] with
      | error e' => exact absurd hbefore (not_mergeable_of_error hfirst)
      | ok between =>
        obtain ⟨-, -, hbefore⟩ := mergeable_cons_iff.1 hbefore
        rw [ownNames_cons, ← List.append_assoc] at hrejects
        rw [← keys_of_addFieldDocs_singleton hfirst] at hbefore hrejects
        exact ih hbefore hrejects

/-- Comments that can be added are added. -/
theorem exists_addFieldDocs_iff :
    (∃ after, addFieldDocs doc fields = .ok after) ↔ Mergeable doc.fields.keys fields := by
  constructor
  · rintro ⟨after, hafter⟩
    exact (addFieldDocs_eq_ok_iff.1 hafter).1
  · intro hmerge
    cases hadd : addFieldDocs doc fields with
    | ok after => exact ⟨after, rfl⟩
    | error e =>
      obtain ⟨before, field, rest, rfl, -, hrejects⟩ := addFieldDocs_eq_error_iff.1 hadd
      exact absurd hmerge hrejects.not_mergeable

/-! ### Documentation that is kept -/

/-- **A text that is refused changes nothing**; one that is not is added. -/
theorem run_keepField (doc : DocMetadata) (name text : String) :
    (keepField name text).run.run doc = match doc.insertField name text with
      | .ok after => (.ok (), after)
      | .error e => (.error e, doc) := by
  show (if doc.fields.contains name = true then
      (throw (.conflictingFieldDoc name) : ExceptT DocError (StateM DocMetadata) Unit)
    else modify fun doc => { doc with fields := doc.fields.insert name text }).run.run doc = _
  unfold DocMetadata.insertField
  by_cases hcontains : doc.fields.contains name = true
  · rw [if_pos hcontains, if_pos hcontains]
    rfl
  · rw [if_neg hcontains, if_neg hcontains]
    rfl

end Doc

namespace SourceType

open Doc

/-- What the comment of a type says, if it has one. -/
def commentDoc (t : SourceType) : Except DocError DocMetadata :=
  match t.comment with
  | none => .ok .empty
  | some text => parse text (t.fields.map SourceField.name)

/-- The names of the fields with their own comments, in order. -/
def fieldComments (t : SourceType) : List (String × Option String) :=
  t.fields.map fun field => (field.name, field.comment)

/-- What fields say of themselves is added to what the comment of the type says. -/
theorem doc_eq (t : SourceType) : t.doc = match t.commentDoc with
    | .error e => .error e
    | .ok start => addFieldDocs start t.fieldComments := by
  have hnames : t.fieldComments.map Prod.fst = t.fields.map SourceField.name := by
    simp [fieldComments]
  unfold SourceType.doc metadata commentDoc
  rw [← hnames]
  cases t.comment <;> rfl

/-- **The documentation of a type** is there if the comment of the type can be read and the own comments
of its fields can be added to it. It has the description and the fields of the comment, in the order of
its tags, and then the texts that fields give themselves, in the order of the fields. Otherwise the
error is that of the comment or, if it can be read, that of the first field that is refused; and where
documentation is kept, a text that is refused leaves it as it was. -/
theorem doc_of_comments (t : SourceType) :
    ((∃ doc, t.doc = .ok doc) ↔
        ∃ start, t.commentDoc = .ok start ∧ Mergeable start.fields.keys t.fieldComments) ∧
      (∀ start doc, t.commentDoc = .ok start → t.doc = .ok doc →
        doc.description = start.description ∧
          doc.fields.entries = start.fields.entries ++ ownTexts t.fieldComments) ∧
      (∀ start text, t.commentDoc = .ok start → t.comment = some text →
        ∃ main later, Divides (Text.words text) main later ∧ start.description = textOf? main ∧
          start.fields.entries = entries later) ∧
      (∀ e, t.doc = .error e ↔ t.commentDoc = .error e ∨
        ∃ start before field rest, t.commentDoc = .ok start ∧
          t.fieldComments = before ++ field :: rest ∧ Mergeable start.fields.keys before ∧
            Rejects (start.fields.keys ++ ownNames before) field e) ∧
      ∀ (doc after : DocMetadata) (name text : String) (e : DocError),
        (keepField name text).run.run doc = (.error e, after) → after = doc := by
  rw [doc_eq]
  refine ⟨?_, ?_, ?_, ?_, ?_⟩
  · cases t.commentDoc with
    | error e => simp
    | ok start =>
      simp only [Except.ok.injEq, exists_eq_left']
      exact exists_addFieldDocs_iff
  · intro start doc hstart hdoc
    rw [hstart] at hdoc
    exact (addFieldDocs_eq_ok_iff.1 hdoc).2
  · intro start text hstart htext
    rw [commentDoc, htext] at hstart
    obtain ⟨-, -, hdescription, hentries⟩ := (parse_eq_ok_iff rfl rfl).1 hstart
    exact ⟨_, _, divides_segments _, hdescription, hentries⟩
  · intro e
    cases t.commentDoc with
    | error e' => simp
    | ok start => simpa using addFieldDocs_eq_error_iff
  · intro doc after name text e hrun
    rw [run_keepField] at hrun
    cases hinsert : doc.insertField name text with
    | ok after' =>
      rw [hinsert] at hrun
      cases hrun
    | error e' =>
      rw [hinsert] at hrun
      cases hrun
      rfl

end SourceType

end TypeSchema
