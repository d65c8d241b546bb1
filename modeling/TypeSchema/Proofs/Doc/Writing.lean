import TypeSchema.Proofs.Doc.Grammar

/-!
# Writing documentation

Documentation can be written down as a doc comment in many ways: either of the two field tags, segments
that say nothing in any place behind the description, and any blanks between the words. `Written` holds
of a text that is one of these ways. The relation does not speak of reading, and reading is its inverse:
`parse_eq_ok_iff_written` says that a comment is read as some documentation if and only if it is a way
to write it down and the documentation can be written at all.

What can be written is `Writable`: texts are phrases, that is words joined by single blanks, and no word
is a tag. All that is ever read is of this form, so a comment may be written anew without a change of
what it says.
-/

namespace TypeSchema.Doc

open Text (IsWord Spaced unwords)

/-! ### What can be written -/

/-- Is it a word, and no tag? -/
structure IsPlainWord (w : String) : Prop where
  /-- It is a word. -/
  word : IsWord w
  /-- It does not begin like a tag. -/
  plain : isTag w = false

/-- Is the text one plain word, or several joined by single blanks? -/
def IsPhrase (text : String) : Prop :=
  ∃ ws, ws ≠ [] ∧ (∀ w ∈ ws, IsPlainWord w) ∧ text = unwords ws

/-- Can the documentation be written for a type with the given fields? -/
structure Writable (known : List String) (doc : DocMetadata) : Prop where
  /-- The description is a phrase. -/
  description : ∀ text ∈ doc.description, IsPhrase text
  /-- Each text is a phrase, for a known field whose name is a plain word. -/
  fields : ∀ entry ∈ doc.fields.entries, IsPlainWord entry.1 ∧ entry.1 ∈ known ∧ IsPhrase entry.2

/-! ### How it is written -/

/-- Are these the words of the description, if there is one? -/
inductive Opens : Option String → List String → Prop where
  /-- There is no description. -/
  | nothing : Opens none []
  /-- Its words. -/
  | phrase {ws : List String} (hne : ws ≠ []) (hws : ∀ w ∈ ws, IsPlainWord w) :
      Opens (some (unwords ws)) ws

/-- Do the segments say the given texts of fields, in order, with any segments that say nothing between
them? -/
inductive Tells : List (String × String) → List Segment → Prop where
  /-- Nothing is left to say. -/
  | done : Tells [] []
  /-- A field and the words of its text, behind one of the two tags. -/
  | field {name tag : String} {ws : List String} {rest : List (String × String)}
      {later : List Segment} (htag : tag = "@param" ∨ tag = "@property") (hne : ws ≠ [])
      (hws : ∀ w ∈ ws, IsPlainWord w) (hrest : Tells rest later) :
      Tells ((name, unwords ws) :: rest) (⟨tag, name :: ws⟩ :: later)
  /-- A segment that says nothing. -/
  | remark {ws : List String} {rest : List (String × String)} {later : List Segment}
      (hws : ∀ w ∈ ws, IsPlainWord w) (hrest : Tells rest later) :
      Tells rest (⟨returnTag, ws⟩ :: later)

/-- Is the text a way to write the documentation? The description comes first, then the segments, with
any blanks around and between their words. -/
def Written (doc : DocMetadata) (text : String) : Prop :=
  ∃ main later, Opens doc.description main ∧ Tells doc.fields.entries later ∧
    Spaced (main ++ later.flatMap Segment.words) text.toList

/-! ### What is written is read -/

/-- The words of a description are plain. -/
theorem Opens.isPlainWord {description : Option String} {main : List String}
    (h : Opens description main) : ∀ w ∈ main, IsPlainWord w := by
  cases h with
  | nothing => simp
  | phrase _ hws => exact hws

/-- The description is the text of the main part. -/
theorem Opens.eq_textOf? {description : Option String} {main : List String}
    (h : Opens description main) : description = textOf? main := by
  cases h with
  | nothing => rfl
  | phrase hne _ => simp [textOf?, hne]

variable {known : List String} {said : List (String × String)} {later : List Segment}

/-- The two tags for fields are tags that are known. -/
theorem mem_tags_of_field {tag : String} (h : tag = "@param" ∨ tag = "@property") : tag ∈ tags := by
  rcases h with rfl | rfl <;> decide

/-- The two tags for fields are not the one for what is returned. -/
theorem ne_returnTag_of_field {tag : String} (h : tag = "@param" ∨ tag = "@property") :
    tag ≠ returnTag := by
  rcases h with rfl | rfl <;> decide

/-- The allowed tags are tags. -/
theorem isTag_of_mem_tags : ∀ tag ∈ tags, isTag tag = true := by decide

/-- The tag for what is returned is known. -/
@[simp] theorem returnTag_mem_tags : returnTag ∈ tags := by decide

/-- Segments that tell something say just that. -/
theorem Tells.entries_eq (h : Tells said later) : entries later = said := by
  induction h with
  | done => rfl
  | @field name tag ws rest later htag hne _ _ ih =>
    obtain ⟨word, text, rfl⟩ := List.exists_cons_of_ne_nil hne
    have hentry : Segment.entry? ⟨tag, name :: word :: text⟩ = some (name, unwords (word :: text)) :=
      entry?_of_body (ne_returnTag_of_field htag) rfl
    rw [entries, List.filterMap_cons_some hentry]
    exact congrArg _ ih
  | @remark ws rest later _ _ ih =>
    have hentry : Segment.entry? ⟨returnTag, ws⟩ = none := entry?_of_return rfl
    rw [entries, List.filterMap_cons_none hentry]
    exact ih

/-- The tags of segments that tell something are known. -/
theorem Tells.mem_tags (h : Tells said later) : ∀ segment ∈ later, segment.tag ∈ tags := by
  induction h with
  | done => simp
  | field htag _ _ _ ih => exact List.forall_mem_cons.2 ⟨mem_tags_of_field htag, ih⟩
  | remark _ _ ih => exact List.forall_mem_cons.2 ⟨returnTag_mem_tags, ih⟩

/-- If the names are plain words, then so are all words behind the tags. -/
theorem Tells.isPlainWord (h : Tells said later) (hnames : ∀ entry ∈ said, IsPlainWord entry.1) :
    ∀ segment ∈ later, ∀ w ∈ segment.body, IsPlainWord w := by
  induction h with
  | done => simp
  | field _ _ hws _ ih =>
    obtain ⟨hname, hnames⟩ := List.forall_mem_cons.1 hnames
    exact List.forall_mem_cons.2 ⟨List.forall_mem_cons.2 ⟨hname, hws⟩, ih hnames⟩
  | remark hws _ ih => exact List.forall_mem_cons.2 ⟨hws, ih hnames⟩

/-- If the names are known, the segments are complete. -/
theorem Tells.complete (h : Tells said later) (hknown : ∀ entry ∈ said, entry.1 ∈ known) :
    ∀ segment ∈ later, segment.Complete known := by
  induction h with
  | done => simp
  | field _ hne _ _ ih =>
    obtain ⟨word, text, rfl⟩ := List.exists_cons_of_ne_nil hne
    obtain ⟨hname, hrest⟩ := List.forall_mem_cons.1 hknown
    exact List.forall_mem_cons.2 ⟨.inr ⟨_, word, text, rfl, hname⟩, ih hrest⟩
  | remark _ _ ih => exact List.forall_mem_cons.2 ⟨.inl rfl, ih hknown⟩

/-- The words of a division have allowed tags if those of the segments are. -/
theorem tagsAllowed_of_divides {ws main : List String} (h : Divides ws main later)
    (htags : ∀ segment ∈ later, segment.tag ∈ tags) : TagsAllowed ws := by
  intro w hw htag
  rw [h.words] at hw
  rcases List.mem_append.1 hw with hw | hw
  · rw [h.main w hw] at htag
    cases htag
  obtain ⟨segment, hsegment, hw⟩ := List.mem_flatMap.1 hw
  rcases List.mem_cons.1 hw with rfl | hw
  · exact htags segment hsegment
  · rw [h.bodies segment hsegment w hw] at htag
    cases htag

variable {doc : DocMetadata} {text : String}

/-- **What is written is read.** -/
theorem parse_of_written (hwritable : Writable known doc) (h : Written doc text) :
    parse text known = .ok doc := by
  obtain ⟨main, later, hopens, htells, hspaced⟩ := h
  have hbodies := htells.isPlainWord fun entry hentry => (hwritable.fields entry hentry).1
  have hcomplete := htells.complete fun entry hentry => (hwritable.fields entry hentry).2.1
  have hdivides : Divides _ main later :=
    { words := rfl
      main := fun w hw => (hopens.isPlainWord w hw).plain
      tags := fun segment hsegment => isTag_of_mem_tags _ (htells.mem_tags segment hsegment)
      bodies := fun segment hsegment w hw => (hbodies segment hsegment w hw).plain }
  have hdistinct : (names later).Nodup := by
    rw [names, htells.entries_eq]
    exact doc.fields.nodup
  rw [parse_eq_ok_iff (Text.words_eq_iff.2 hspaced) (segments_eq_iff.2 hdivides)]
  exact ⟨tagsAllowed_of_divides hdivides htells.mem_tags, ⟨hcomplete, hdistinct⟩, hopens.eq_textOf?,
    htells.entries_eq.symm⟩

/-! ### What is read was written -/

/-- Plain words are the main part for their own text. -/
theorem opens_textOf? {main : List String} (h : ∀ w ∈ main, IsPlainWord w) :
    Opens (textOf? main) main := by
  by_cases hne : main = []
  · subst hne
    exact .nothing
  · simpa [textOf?, hne] using Opens.phrase hne h

/-- A description is a phrase. -/
theorem Opens.isPhrase {description : Option String} {main : List String}
    (h : Opens description main) : ∀ text ∈ description, IsPhrase text := by
  cases h with
  | nothing => simp
  | phrase hne hws =>
    intro text htext
    exact ⟨main, hne, hws, (Option.mem_some_iff.1 htext).symm⟩

/-- A segment that is complete tells what it says. -/
theorem tells_entries (htags : ∀ segment ∈ later, segment.tag ∈ tags)
    (hcomplete : ∀ segment ∈ later, segment.Complete known)
    (hbodies : ∀ segment ∈ later, ∀ w ∈ segment.body, IsPlainWord w) :
    Tells (entries later) later := by
  induction later with
  | nil => exact .done
  | cons segment later ih =>
    obtain ⟨htag, htags⟩ := List.forall_mem_cons.1 htags
    obtain ⟨hsegment, hcomplete⟩ := List.forall_mem_cons.1 hcomplete
    obtain ⟨hbody, hbodies⟩ := List.forall_mem_cons.1 hbodies
    have hrest : Tells (entries later) later := ih htags hcomplete hbodies
    obtain ⟨tag, body⟩ := segment
    by_cases hreturn : tag = returnTag
    · subst hreturn
      rw [entries, List.filterMap_cons_none (entry?_of_return rfl)]
      exact .remark hbody hrest
    · obtain ⟨name, word, text, rfl, -⟩ := hsegment.resolve_left hreturn
      obtain ⟨-, hws⟩ := List.forall_mem_cons.1 hbody
      have hfield : tag = "@param" ∨ tag = "@property" := by
        simpa [tags, hreturn] using htag
      rw [entries, List.filterMap_cons_some (entry?_of_body hreturn rfl)]
      exact .field hfield (List.cons_ne_nil word text) hws hrest

/-- What segments say of fields are phrases under plain names that are known. -/
theorem mem_entries (hcomplete : ∀ segment ∈ later, segment.Complete known)
    (hbodies : ∀ segment ∈ later, ∀ w ∈ segment.body, IsPlainWord w) :
    ∀ entry ∈ entries later, IsPlainWord entry.1 ∧ entry.1 ∈ known ∧ IsPhrase entry.2 := by
  intro entry hentry
  obtain ⟨segment, hsegment, hentry⟩ := List.mem_filterMap.1 hentry
  obtain ⟨word, text, hbody, htext, hknown⟩ := (hcomplete segment hsegment).body_eq hentry
  have hwords := hbodies segment hsegment
  rw [hbody] at hwords
  obtain ⟨hname, hws⟩ := List.forall_mem_cons.1 hwords
  exact ⟨hname, hknown, word :: text, List.cons_ne_nil word text, hws, htext⟩

/-- **What is read was written**, and can be written. -/
theorem written_of_parse (h : parse text known = .ok doc) :
    Writable known doc ∧ Written doc text := by
  obtain ⟨main, later, hparts⟩ : ∃ main later, segments (Text.words text) = (main, later) :=
    ⟨_, _, rfl⟩
  obtain ⟨htags, haccepts, hdescription, hentries⟩ := (parse_eq_ok_iff rfl hparts).1 h
  have hdivides : Divides (Text.words text) main later := segments_eq_iff.1 hparts
  have hspaced : Spaced (Text.words text) text.toList := Text.words_eq_iff.1 rfl
  have hwords : ∀ w ∈ main ++ later.flatMap Segment.words, IsWord w := by
    rw [← hdivides.words]
    exact hspaced.isWord
  obtain ⟨hmainwords, hlaterwords⟩ := List.forall_mem_append.1 hwords
  have hmain : ∀ w ∈ main, IsPlainWord w := fun w hw => ⟨hmainwords w hw, hdivides.main w hw⟩
  have hbodies : ∀ segment ∈ later, ∀ w ∈ segment.body, IsPlainWord w := by
    intro segment hsegment w hw
    have hmem : w ∈ segment.words := List.mem_cons_of_mem _ hw
    exact ⟨hlaterwords w (List.mem_flatMap.2 ⟨segment, hsegment, hmem⟩),
      hdivides.bodies segment hsegment w hw⟩
  have hallowed : ∀ segment ∈ later, segment.tag ∈ tags := by
    intro segment hsegment
    apply htags _ _ (hdivides.tags segment hsegment)
    rw [hdivides.words]
    exact List.mem_append_right _ (List.mem_flatMap.2 ⟨segment, hsegment, List.mem_cons_self⟩)
  have hopens : Opens doc.description main := hdescription ▸ opens_textOf? hmain
  have htells : Tells doc.fields.entries later :=
    hentries ▸ tells_entries hallowed haccepts.complete hbodies
  refine ⟨⟨hopens.isPhrase, ?_⟩, main, later, hopens, htells, hdivides.words ▸ hspaced⟩
  rw [hentries]
  exact mem_entries haccepts.complete hbodies

/-! ### There is always a way to write -/

/-- Every phrase can be a description. -/
theorem exists_opens {description : Option String} (h : ∀ text ∈ description, IsPhrase text) :
    ∃ main, Opens description main := by
  cases description with
  | none => exact ⟨[], .nothing⟩
  | some text =>
    obtain ⟨ws, hne, hws, rfl⟩ := h text rfl
    exact ⟨ws, .phrase hne hws⟩

/-- Every list of fields with phrases can be told. -/
theorem exists_tells (h : ∀ entry ∈ said, IsPhrase entry.2) : ∃ later, Tells said later := by
  induction said with
  | nil => exact ⟨[], .done⟩
  | cons entry said ih =>
    obtain ⟨hentry, hsaid⟩ := List.forall_mem_cons.1 h
    obtain ⟨name, text⟩ := entry
    obtain ⟨ws, hne, hws, rfl⟩ := hentry
    obtain ⟨later, hlater⟩ := ih hsaid
    exact ⟨⟨"@param", name :: ws⟩ :: later, .field (.inl rfl) hne hws hlater⟩

/-- Tags are words. -/
theorem isWord_of_mem_tags : ∀ tag ∈ tags, IsWord tag := by
  have hnonempty : "" ∉ tags := by decide
  have hunbroken : tags.all (fun tag => tag.toList.all fun c => !Text.isBlank c) = true := by decide
  intro tag htag
  exact ⟨fun hempty => hnonempty (hempty ▸ htag), by simpa using List.all_eq_true.1 hunbroken tag htag⟩

/-- Documentation that can be written is written somehow. -/
theorem exists_written (h : Writable known doc) : ∃ text, Written doc text := by
  obtain ⟨main, hopens⟩ := exists_opens h.description
  obtain ⟨later, htells⟩ := exists_tells fun entry hentry => (h.fields entry hentry).2.2
  have hbodies := htells.isPlainWord fun entry hentry => (h.fields entry hentry).1
  refine ⟨_, main, later, hopens, htells, Text.spaced_unwords ?_⟩
  apply List.forall_mem_append.2 ⟨fun w hw => (hopens.isPlainWord w hw).word, fun w hw => ?_⟩
  obtain ⟨segment, hsegment, hw⟩ := List.mem_flatMap.1 hw
  rcases List.mem_cons.1 hw with rfl | hw
  · exact isWord_of_mem_tags _ (htells.mem_tags segment hsegment)
  · exact (hbodies segment hsegment w hw).word

/-- **Reading is the inverse of writing.** A comment is read as some documentation if and only if the
documentation can be written and the comment is a way to do so, whichever field tags it uses, wherever
its segments that say nothing stand, and whatever blanks are in it. All that can be written is written
by some comment. So if a comment is read, it may be written anew in any way, and the same is read. -/
theorem parse_eq_ok_iff_written (known : List String) (doc : DocMetadata) :
    (∀ text, parse text known = .ok doc ↔ Writable known doc ∧ Written doc text) ∧
      (Writable known doc → ∃ text, Written doc text) ∧
        ∀ text, parse text known = .ok doc →
          (∃ other, Written doc other) ∧ ∀ other, Written doc other → parse other known = .ok doc := by
  have hiff : ∀ text, parse text known = .ok doc ↔ Writable known doc ∧ Written doc text :=
    fun text => ⟨written_of_parse, fun h => parse_of_written h.1 h.2⟩
  refine ⟨hiff, exists_written, fun text hread => ?_⟩
  obtain ⟨hwritable, hwritten⟩ := (hiff text).1 hread
  exact ⟨⟨text, hwritten⟩, fun other hother => (hiff other).2 ⟨hwritable, hother⟩⟩

/-- A comment with the other field tag, a remark, and tabs and line ends for blanks is read as the
plain comment is. -/
theorem parse_eq_ok_iff_written_reading :
    Writable ["id"] (.ofList (some "A key") [("id", "Its name")]) ∧
      Written (.ofList (some "A key") [("id", "Its name")])
        "A key\t@return it\n@property id  Its name " ∧
      parse "A key @param id Its name" ["id"] =
        .ok (.ofList (some "A key") [("id", "Its name")]) := by
  obtain ⟨hiff, -, hagain⟩ :=
    parse_eq_ok_iff_written ["id"] (.ofList (some "A key") [("id", "Its name")])
  have hread : parse "A key\t@return it\n@property id  Its name " ["id"] =
      .ok (.ofList (some "A key") [("id", "Its name")]) := by cbv
  have hspaced : Spaced ["A", "key", "@param", "id", "Its", "name"]
      "A key @param id Its name".toList := Text.words_eq_iff.1 (by cbv)
  have hwords : ∀ w ∈ ["A", "key", "Its", "name"], IsPlainWord w := fun w hw =>
    ⟨hspaced.isWord w (by revert w; decide), by revert w; decide⟩
  obtain ⟨hmain, htext⟩ : (∀ w ∈ ["A", "key"], IsPlainWord w) ∧ ∀ w ∈ ["Its", "name"], IsPlainWord w :=
    List.forall_mem_append.1 hwords
  have hopens : Opens (some "A key") ["A", "key"] := .phrase (by simp) hmain
  have htells : Tells [("id", "Its name")] [⟨"@param", ["id", "Its", "name"]⟩] :=
    .field (.inl rfl) (by simp) htext .done
  obtain ⟨hwritable, hwritten⟩ := (hiff _).1 hread
  exact ⟨hwritable, hwritten, (hagain _ hread).2 _ ⟨_, _, hopens, htells, hspaced⟩⟩

end TypeSchema.Doc
