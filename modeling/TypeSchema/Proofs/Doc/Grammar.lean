import TypeSchema.Doc
import TypeSchema.Proofs.OrderedMap
import TypeSchema.Proofs.Text.Words

/-!
# The grammar of doc comments

What a doc comment must look like, said of its words and of their division at the tags, and without
reading it.

* `Divides` is the division of words into a main part and segments; `segments_eq_iff` says that there is
  one, and that splitting finds it.
* `Accepts` says which segments are in order, `Refuses` what is wrong with one that is not, and
  `Segment.entry?` what a segment says of a field.
* `readSegments_eq_ok` and `readSegments_eq_error_iff` are the reading of segments in turn, both by
  induction on the segments.
* `parse_eq_ok_iff` and `parse_eq_error_iff` put them together, and `parse_follows_grammar` starts from
  the text.
-/

namespace TypeSchema.Doc

open Text (unwords)

/-! ### Words and segments -/

/-- The words of a segment: its tag and what follows. -/
def Segment.words (segment : Segment) : List String := segment.tag :: segment.body

/-- Are the words divided into a main part before the first tag and one segment for each tag? -/
structure Divides (ws main : List String) (later : List Segment) : Prop where
  /-- The parts in order are the words. -/
  words : ws = main ++ later.flatMap Segment.words
  /-- The main part has no tag. -/
  main : ∀ w ∈ main, isTag w = false
  /-- Each segment begins with a tag. -/
  tags : ∀ segment ∈ later, isTag segment.tag = true
  /-- No other tag is in it. -/
  bodies : ∀ segment ∈ later, ∀ w ∈ segment.body, isTag w = false

/-- No words divide into nothing. -/
@[simp] theorem divides_nil : Divides [] [] [] := ⟨rfl, by simp, by simp, by simp⟩

/-- A word in front that is no tag belongs to the main part. -/
theorem Divides.cons_word {ws main : List String} {later : List Segment} {w : String}
    (hw : isTag w = false) (h : Divides ws main later) : Divides (w :: ws) (w :: main) later where
  words := congrArg (w :: ·) h.words
  main := List.forall_mem_cons.2 ⟨hw, h.main⟩
  tags := h.tags
  bodies := h.bodies

/-- A tag in front makes the main part a segment. -/
theorem Divides.cons_tag {ws main : List String} {later : List Segment} {w : String}
    (hw : isTag w = true) (h : Divides ws main later) :
    Divides (w :: ws) [] (⟨w, main⟩ :: later) where
  words := congrArg (w :: ·) h.words
  main := by simp
  tags := List.forall_mem_cons.2 ⟨hw, h.tags⟩
  bodies := List.forall_mem_cons.2 ⟨h.main, h.bodies⟩

/-- A word before the first tag belongs to the main part. -/
theorem segments_cons_of_word {ws : List String} {w : String} (hw : isTag w = false) :
    segments (w :: ws) = (w :: (segments ws).1, (segments ws).2) := by
  rw [segments]
  exact if_neg (by simp [hw])

/-- A tag begins a segment with the words up to the next one. -/
theorem segments_cons_of_tag {ws : List String} {w : String} (hw : isTag w = true) :
    segments (w :: ws) = ([], ⟨w, (segments ws).1⟩ :: (segments ws).2) := by
  rw [segments]
  exact if_pos hw

/-- Words can be divided, in the way that `segments` does. -/
theorem divides_segments (ws : List String) : Divides ws (segments ws).1 (segments ws).2 := by
  induction ws with
  | nil => exact divides_nil
  | cons w ws ih =>
    cases hw : isTag w with
    | true =>
      rw [segments_cons_of_tag hw]
      exact ih.cons_tag hw
    | false =>
      rw [segments_cons_of_word hw]
      exact ih.cons_word hw

/-- Words in front that are no tags belong to the main part. -/
theorem segments_append_of_words {main ws : List String} (hmain : ∀ w ∈ main, isTag w = false) :
    segments (main ++ ws) = (main ++ (segments ws).1, (segments ws).2) := by
  induction main with
  | nil => rfl
  | cons w main ih =>
    obtain ⟨hw, hmain⟩ := List.forall_mem_cons.1 hmain
    rw [List.cons_append, segments_cons_of_word hw, ih hmain]
    rfl

/-- Splitting the words of segments gives the segments. -/
theorem segments_flatMap_words {later : List Segment}
    (htags : ∀ segment ∈ later, isTag segment.tag = true)
    (hbodies : ∀ segment ∈ later, ∀ w ∈ segment.body, isTag w = false) :
    segments (later.flatMap Segment.words) = ([], later) := by
  induction later with
  | nil => rfl
  | cons segment later ih =>
    obtain ⟨htag, htags⟩ := List.forall_mem_cons.1 htags
    obtain ⟨hbody, hbodies⟩ := List.forall_mem_cons.1 hbodies
    rw [List.flatMap_cons, Segment.words, List.cons_append, segments_cons_of_tag htag,
      segments_append_of_words hbody, ih htags hbodies, List.append_nil]

/-- **Words have one division.** -/
theorem segments_eq_iff {ws main : List String} {later : List Segment} :
    segments ws = (main, later) ↔ Divides ws main later := by
  constructor
  · intro h
    have hdivides := divides_segments ws
    rwa [h] at hdivides
  · intro h
    rw [h.words, segments_append_of_words h.main, segments_flatMap_words h.tags h.bodies,
      List.append_nil]

/-! ### What segments say -/

/-- The field that a segment describes, with the text: the words of the segment, all but the first. -/
def Segment.entry? (segment : Segment) : Option (String × String) :=
  if segment.tag = returnTag then none
  else match segment.body with
    | field :: word :: text => some (field, unwords (word :: text))
    | _ => none

/-- The fields that segments describe, in order. -/
def entries (later : List Segment) : List (String × String) := later.filterMap Segment.entry?

/-- The names of these fields. -/
def names (later : List Segment) : List String := (entries later).map Prod.fst

/-- Does the segment say nothing, or has it the name of a known field and a word of text? -/
def Segment.Complete (known : List String) (segment : Segment) : Prop :=
  segment.tag = returnTag ∨
    ∃ field word text, segment.body = field :: word :: text ∧ field ∈ known

/-- Is every segment complete, and does no field come twice? -/
structure Accepts (known : List String) (later : List Segment) : Prop where
  /-- Nothing is missing and all names are known. -/
  complete : ∀ segment ∈ later, segment.Complete known
  /-- No field is described by two segments. -/
  distinct : (names later).Nodup

/-- What is wrong with a segment after others that describe the given fields. It has no field name; or
the name is not known; or no text follows; or the field is described already. -/
inductive Refuses (known earlier : List String) (segment : Segment) : DocError → Prop where
  /-- There is no name. -/
  | missing (htag : segment.tag ≠ returnTag) (hbody : segment.body = []) :
      Refuses known earlier segment (.missingFieldName segment.tag)
  /-- The name is not that of a field. -/
  | unknown {field : String} {text : List String} (htag : segment.tag ≠ returnTag)
      (hbody : segment.body = field :: text) (hknown : field ∉ known) :
      Refuses known earlier segment (.unknownField segment.tag field)
  /-- There is no text. -/
  | empty {field : String} (htag : segment.tag ≠ returnTag) (hbody : segment.body = [field])
      (hknown : field ∈ known) : Refuses known earlier segment (.emptyDescription segment.tag field)
  /-- The field has a text. -/
  | duplicate {field word : String} {text : List String} (htag : segment.tag ≠ returnTag)
      (hbody : segment.body = field :: word :: text) (hknown : field ∈ known)
      (hearlier : field ∈ earlier) :
      Refuses known earlier segment (.duplicateField segment.tag field)

variable {known : List String} {fields after : OrderedMap String} {segment : Segment}
  {later : List Segment} {e : DocError}

/-- What is returned is no entry. -/
theorem entry?_of_return (htag : segment.tag = returnTag) : segment.entry? = none := if_pos htag

/-- The first word after a tag is the field, and the others are the text. -/
theorem entry?_of_body {field word : String} {text : List String} (htag : segment.tag ≠ returnTag)
    (hbody : segment.body = field :: word :: text) :
    segment.entry? = some (field, unwords (word :: text)) := by
  rw [Segment.entry?, if_neg htag, hbody]

/-- What a complete segment says of a field is its name, which is known, and the words behind it. -/
theorem Segment.Complete.body_eq {entry : String × String} (h : segment.Complete known)
    (hentry : segment.entry? = some entry) : ∃ word text,
      segment.body = entry.1 :: word :: text ∧ entry.2 = unwords (word :: text) ∧
        entry.1 ∈ known := by
  have htag : segment.tag ≠ returnTag := by
    intro htag
    rw [entry?_of_return htag] at hentry
    cases hentry
  obtain ⟨field, word, text, hbody, hknown⟩ := h.resolve_left htag
  rw [entry?_of_body htag hbody] at hentry
  cases hentry
  exact ⟨word, text, hbody, rfl, hknown⟩

/-- The fields of segments in a row. -/
@[simp] theorem names_append (before later : List Segment) :
    names (before ++ later) = names before ++ names later := by
  simp [names, entries]

/-- Segments are in order if the first ones are, and the next is complete and of a new field. -/
theorem accepts_append_iff {before : List Segment} :
    Accepts known (before ++ later) ↔ Accepts known before ∧
      (∀ segment ∈ later, segment.Complete known) ∧ (names before ++ names later).Nodup := by
  rw [← names_append]
  constructor
  · intro h
    obtain ⟨hbefore, hlater⟩ := List.forall_mem_append.1 h.complete
    have hnodup : (names before).Nodup := by
      have hall := h.distinct
      rw [names_append, List.nodup_append] at hall
      exact hall.1
    exact ⟨⟨hbefore, hnodup⟩, hlater, h.distinct⟩
  · rintro ⟨hbefore, hlater, hnodup⟩
    exact ⟨List.forall_mem_append.2 ⟨hbefore.complete, hlater⟩, hnodup⟩

/-- A segment that is refused is not in order after those before it. -/
theorem Refuses.not_accepts {before : List Segment}
    (h : Refuses known (names before) segment e) : ¬ Accepts known (before ++ segment :: later) := by
  rw [accepts_append_iff]
  rintro ⟨-, hcomplete, hnodup⟩
  have hsegment : segment.Complete known := hcomplete segment List.mem_cons_self
  cases h with
  | missing htag hbody =>
    obtain ⟨field, word, text, hbody', -⟩ := hsegment.resolve_left htag
    simp [hbody] at hbody'
  | unknown htag hbody hknown =>
    obtain ⟨field, word, text, hbody', hknown'⟩ := hsegment.resolve_left htag
    rw [hbody, List.cons.injEq] at hbody'
    exact hknown (hbody'.1 ▸ hknown')
  | empty htag hbody _ =>
    obtain ⟨field, word, text, hbody', -⟩ := hsegment.resolve_left htag
    simp [hbody] at hbody'
  | @duplicate field word text htag hbody _ hearlier =>
    have hmem : field ∈ names (segment :: later) := by
      simp [names, entries, entry?_of_body htag hbody]
    exact (List.nodup_append.1 hnodup).2.2 field hearlier field hmem rfl

/-! ### Reading one segment -/

/-- **A segment that is read** is complete, describes a field that is new, and adds what it says. -/
theorem readSegment_eq_ok (h : readSegment known fields segment = .ok after) :
    segment.Complete known ∧ (∀ entry ∈ segment.entry?, entry.1 ∉ fields.keys) ∧
      after.entries = fields.entries ++ segment.entry?.toList := by
  unfold readSegment at h
  split at h
  · next htag =>
    cases h
    rw [entry?_of_return htag]
    exact ⟨.inl htag, by simp, by simp⟩
  next htag =>
    split at h
    · cases h
    next field rest hbody =>
      split at h
      · cases h
      next hknown =>
        split at h
        · cases h
        next hrest =>
          split at h
          · cases h
          next hnew =>
            cases h
            obtain ⟨word, text, rfl⟩ := List.exists_cons_of_ne_nil (by simpa using hrest)
            have hfresh : field ∉ fields.keys := by
              rwa [← OrderedMap.contains_iff_mem_keys]
            rw [entry?_of_body htag hbody]
            refine ⟨.inr ⟨field, word, text, hbody, not_not.1 hknown⟩, by simpa using hfresh, ?_⟩
            exact putEntry_of_not_mem hfresh

/-- **A segment is refused** for what is wrong with it. -/
theorem readSegment_eq_error_iff :
    readSegment known fields segment = .error e ↔ Refuses known fields.keys segment e := by
  constructor
  · intro h
    unfold readSegment at h
    split at h
    · cases h
    next htag =>
      split at h
      · next hbody =>
        cases h
        exact .missing htag hbody
      next field rest hbody =>
        split at h
        · next hknown =>
          cases h
          exact .unknown htag hbody hknown
        next hknown =>
          split at h
          · next hrest =>
            cases h
            rw [List.isEmpty_iff.1 hrest] at hbody
            exact .empty htag hbody (not_not.1 hknown)
          next hrest =>
            split at h
            · next htwice =>
              cases h
              obtain ⟨word, text, rfl⟩ := List.exists_cons_of_ne_nil (by simpa using hrest)
              exact .duplicate htag hbody (not_not.1 hknown)
                (OrderedMap.contains_iff_mem_keys.1 htwice)
            · cases h
  · intro h
    unfold readSegment
    cases h with
    | missing htag hbody => simp [htag, hbody]
    | unknown htag hbody hknown => simp [htag, hbody, hknown]
    | empty htag hbody hknown => simp [htag, hbody, hknown]
    | duplicate htag hbody hknown hearlier =>
      simp [htag, hbody, hknown, OrderedMap.contains_iff_mem_keys.2 hearlier]

/-! ### Reading segments in turn -/

/-- Segments that are read add what they say, in order. -/
theorem readSegments_eq_ok (h : readSegments known fields later = .ok after) :
    (∀ segment ∈ later, segment.Complete known) ∧ (fields.keys ++ names later).Nodup ∧
      after.entries = fields.entries ++ entries later := by
  induction later generalizing fields with
  | nil =>
    cases h
    exact ⟨by simp, by simpa [names, entries, OrderedMap.keys] using after.nodup,
      by simp [entries]⟩
  | cons segment later ih =>
    unfold readSegments at h
    split at h
    · cases h
    next between hbetween =>
      obtain ⟨hcomplete, -, hbetween⟩ := readSegment_eq_ok hbetween
      obtain ⟨hlater, hnodup, hafter⟩ := ih h
      have hkeys : between.keys = fields.keys ++ segment.entry?.toList.map Prod.fst := by
        rw [OrderedMap.keys, hbetween, List.map_append]
        rfl
      have hnames : names (segment :: later) =
          segment.entry?.toList.map Prod.fst ++ names later := by
        cases hentry : segment.entry? <;> simp [names, entries, hentry]
      have hentries : entries (segment :: later) = segment.entry?.toList ++ entries later := by
        cases hentry : segment.entry? <;> simp [entries, hentry]
      refine ⟨List.forall_mem_cons.2 ⟨hcomplete, hlater⟩, ?_, ?_⟩
      · rwa [hnames, ← List.append_assoc, ← hkeys]
      · rw [hentries, ← List.append_assoc, ← hbetween, hafter]

/-- **Segments are refused** at the first that is refused, after those before it were read. -/
theorem readSegments_eq_error_iff :
    readSegments known fields later = .error e ↔
      ∃ before segment rest between, later = before ++ segment :: rest ∧
        readSegments known fields before = .ok between ∧
          readSegment known between segment = .error e := by
  induction later generalizing fields with
  | nil =>
    constructor
    · rintro ⟨⟩
    · rintro ⟨before, segment, rest, between, hlater, -, -⟩
      simp at hlater
  | cons first later ih =>
    rw [readSegments]
    cases hfirst : readSegment known fields first with
    | error e' =>
      constructor
      · rintro ⟨⟩
        exact ⟨[], first, later, fields, rfl, rfl, hfirst⟩
      · rintro ⟨before, segment, rest, between, hlater, hbefore, hsegment⟩
        cases before with
        | nil =>
          cases hlater
          cases hbefore
          exact hfirst.symm.trans hsegment
        | cons other before =>
          cases hlater
          simp [readSegments, hfirst] at hbefore
    | ok middle =>
      show readSegments known middle later = .error e ↔ _
      rw [ih]
      constructor
      · rintro ⟨before, segment, rest, between, rfl, hbefore, hsegment⟩
        exact ⟨first :: before, segment, rest, between, rfl,
          by simpa [readSegments, hfirst] using hbefore, hsegment⟩
      · rintro ⟨before, segment, rest, between, hlater, hbefore, hsegment⟩
        cases before with
        | nil =>
          cases hlater
          cases hbefore
          rw [hfirst] at hsegment
          cases hsegment
        | cons other before =>
          cases hlater
          exact ⟨before, segment, rest, between, rfl,
            by simpa [readSegments, hfirst] using hbefore, hsegment⟩

/-- What is read from segments alone: those that are in order, and what they say. -/
theorem readSegments_empty_eq_ok_iff :
    readSegments known .empty later = .ok after ↔
      Accepts known later ∧ after.entries = entries later := by
  constructor
  · intro h
    obtain ⟨hcomplete, hnodup, hafter⟩ := readSegments_eq_ok h
    exact ⟨⟨hcomplete, hnodup⟩, hafter⟩
  · rintro ⟨haccepts, hafter⟩
    cases hread : readSegments known .empty later with
    | ok read =>
      obtain ⟨-, -, hentries⟩ := readSegments_eq_ok hread
      rw [OrderedMap.eq_of_entries (hentries.trans hafter.symm)]
    | error e =>
      obtain ⟨before, segment, rest, between, rfl, hbefore, hsegment⟩ :=
        readSegments_eq_error_iff.1 hread
      obtain ⟨-, -, hbetween⟩ := readSegments_eq_ok hbefore
      have hkeys : between.keys = names before := congrArg (List.map Prod.fst) hbetween
      rw [readSegment_eq_error_iff, hkeys] at hsegment
      exact absurd haccepts hsegment.not_accepts

/-- The first segment that is not in order is refused, for what is wrong with it. -/
theorem readSegments_empty_eq_error_iff :
    readSegments known .empty later = .error e ↔
      ∃ before segment rest, later = before ++ segment :: rest ∧ Accepts known before ∧
        Refuses known (names before) segment e := by
  rw [readSegments_eq_error_iff]
  constructor
  · rintro ⟨before, segment, rest, between, rfl, hbefore, hsegment⟩
    obtain ⟨haccepts, hbetween⟩ := readSegments_empty_eq_ok_iff.1 hbefore
    have hkeys : between.keys = names before := congrArg (List.map Prod.fst) hbetween
    rw [readSegment_eq_error_iff, hkeys] at hsegment
    exact ⟨before, segment, rest, rfl, haccepts, hsegment⟩
  · rintro ⟨before, segment, rest, rfl, haccepts, hrefuses⟩
    have hread := readSegments_empty_eq_ok_iff.2 (show Accepts known before ∧
      (⟨entries before, haccepts.distinct⟩ : OrderedMap String).entries = _ from ⟨haccepts, rfl⟩)
    exact ⟨before, segment, rest, _, rfl, hread, readSegment_eq_error_iff.2 hrefuses⟩

/-! ### Comments -/

/-- Are all tags among the words allowed? -/
def TagsAllowed (ws : List String) : Prop := ∀ w ∈ ws, isTag w = true → w ∈ tags

/-- The error of a comment with the given words and segments: the first tag that is not allowed, or
else what is wrong with the first segment that is not in order. -/
inductive Faults (known ws : List String) (later : List Segment) : DocError → Prop where
  /-- A tag is not allowed, and all before it are. -/
  | tag {before rest : List String} {tag : String} (hwords : ws = before ++ tag :: rest)
      (hbefore : TagsAllowed before) (htag : isTag tag = true) (hnot : tag ∉ tags) :
      Faults known ws later (.unsupportedTag tag)
  /-- All tags are allowed, and a segment is refused after others that are in order. -/
  | segment {before rest : List Segment} {segment : Segment} {e : DocError}
      (htags : TagsAllowed ws) (hlater : later = before ++ segment :: rest)
      (hbefore : Accepts known before) (hrefuses : Refuses known (names before) segment e) :
      Faults known ws later e

/-- No tag is found that is not allowed exactly if all of them are. -/
theorem find?_eq_none_iff_tagsAllowed {ws : List String} :
    ws.find? (fun w => isTag w && w ∉ tags) = none ↔ TagsAllowed ws := by
  simp [TagsAllowed]

/-- The tag that is found is the first one that is not allowed. -/
theorem find?_eq_some_iff_tagsAllowed {ws : List String} {tag : String} :
    ws.find? (fun w => isTag w && w ∉ tags) = some tag ↔
      (isTag tag = true ∧ tag ∉ tags) ∧
        ∃ before rest, ws = before ++ tag :: rest ∧ TagsAllowed before := by
  have hallowed : ∀ before : List String,
      (∀ w ∈ before, (!(isTag w && w ∉ tags)) = true) ↔ TagsAllowed before := by
    intro before
    simp only [TagsAllowed, Bool.not_eq_true', Bool.and_eq_false_imp, decide_eq_false_iff_not,
      not_not]
  simp only [List.find?_eq_some_iff_append, hallowed, Bool.and_eq_true, decide_eq_true_eq,
    exists_and_right]

variable {text : String} {doc : DocMetadata} {ws main : List String}

/-- **A comment is read** if its tags are allowed and its segments in order, and what is read is the
main part and what the segments say. -/
theorem parse_eq_ok_iff (hwords : Text.words text = ws) (hparts : segments ws = (main, later)) :
    parse text known = .ok doc ↔ TagsAllowed ws ∧ Accepts known later ∧
      doc.description = textOf? main ∧ doc.fields.entries = entries later := by
  unfold parse
  simp only [hwords, hparts]
  cases hfind : ws.find? (fun w => isTag w && w ∉ tags) with
  | some tag =>
    have hnot : ¬ TagsAllowed ws := by
      rw [← find?_eq_none_iff_tagsAllowed, hfind]
      exact Option.some_ne_none tag
    simp [hnot]
  | none =>
    have htags : TagsAllowed ws := find?_eq_none_iff_tagsAllowed.1 hfind
    obtain ⟨description, texts⟩ := doc
    cases hread : readSegments known .empty later with
    | error e =>
      have hnot : ¬ (Accepts known later ∧ texts.entries = entries later) := by
        rw [← readSegments_empty_eq_ok_iff, hread]
        simp
      simp only [reduceCtorEq, false_iff]
      exact fun h => hnot ⟨h.2.1, h.2.2.2⟩
    | ok read =>
      obtain ⟨haccepts, hentries⟩ := readSegments_empty_eq_ok_iff.1 hread
      simp only [Except.ok.injEq, DocMetadata.mk.injEq]
      constructor
      · rintro ⟨rfl, rfl⟩
        exact ⟨htags, haccepts, rfl, hentries⟩
      · rintro ⟨-, -, rfl, htexts⟩
        exact ⟨rfl, OrderedMap.eq_of_entries (hentries.trans htexts.symm)⟩

/-- **A comment is refused** for its first fault. -/
theorem parse_eq_error_iff (hwords : Text.words text = ws) (hparts : segments ws = (main, later)) :
    parse text known = .error e ↔ Faults known ws later e := by
  unfold parse
  simp only [hwords, hparts]
  cases hfind : ws.find? (fun w => isTag w && w ∉ tags) with
  | some tag =>
    have hnot : ¬ TagsAllowed ws := by
      rw [← find?_eq_none_iff_tagsAllowed, hfind]
      exact Option.some_ne_none tag
    obtain ⟨⟨htag, hunknown⟩, before, rest, hws, hbefore⟩ := find?_eq_some_iff_tagsAllowed.1 hfind
    constructor
    · rintro ⟨⟩
      exact .tag hws hbefore htag hunknown
    · intro h
      cases h with
      | tag hws' hbefore' htag' hunknown' =>
        have hfind' := find?_eq_some_iff_tagsAllowed.2
          ⟨⟨htag', hunknown'⟩, _, _, hws', hbefore'⟩
        rw [hfind, Option.some.injEq] at hfind'
        rw [hfind']
      | segment htags => exact absurd htags hnot
  | none =>
    have htags : TagsAllowed ws := find?_eq_none_iff_tagsAllowed.1 hfind
    have hsegment : readSegments known .empty later = .error e ↔ Faults known ws later e := by
      rw [readSegments_empty_eq_error_iff]
      constructor
      · rintro ⟨before, segment, rest, hlater, hbefore, hrefuses⟩
        exact .segment htags hlater hbefore hrefuses
      · intro h
        cases h with
        | tag hws hbefore htag hunknown =>
          exact absurd (htags _ (hws ▸ by simp) htag) hunknown
        | segment _ hlater hbefore hrefuses => exact ⟨_, _, _, hlater, hbefore, hrefuses⟩
    rw [← hsegment]
    cases readSegments known .empty later <;> simp

/-- **Reading a doc comment follows its grammar.** A text has one list of words, and these one division
into a main part and segments. The comment is read if and only if all its tags are allowed, every
segment of a field has a known name and at least one word of text, and no field has two segments. Then
the description is the main part, if there is any, and the fields have the texts of their segments, in
order, the words joined by single blanks. Otherwise the error is the first fault. -/
theorem parse_follows_grammar (text : String) (known : List String) :
    ∃ ws main later, (∀ other, Text.Spaced other text.toList ↔ other = ws) ∧
      (∀ front behind, Divides ws front behind ↔ front = main ∧ behind = later) ∧
      ((∃ doc, parse text known = .ok doc) ↔ TagsAllowed ws ∧ Accepts known later) ∧
      (∀ doc, parse text known = .ok doc →
        doc.description = (if main = [] then none else some (" ".intercalate main)) ∧
          doc.fields.entries = entries later) ∧
      ∀ e, parse text known = .error e ↔ Faults known ws later e := by
  have hok : ∀ doc, parse text known = .ok doc ↔ TagsAllowed (Text.words text) ∧
      Accepts known (segments (Text.words text)).2 ∧
        doc.description = textOf? (segments (Text.words text)).1 ∧
          doc.fields.entries = entries (segments (Text.words text)).2 :=
    fun doc => parse_eq_ok_iff rfl rfl
  refine ⟨Text.words text, (segments (Text.words text)).1, (segments (Text.words text)).2,
    fun other => ?_, fun front behind => ?_, ⟨?_, ?_⟩, fun doc hdoc => ?_,
    fun e => parse_eq_error_iff rfl rfl⟩
  · rw [← Text.words_eq_iff, eq_comm]
  · rw [← segments_eq_iff, Prod.ext_iff, eq_comm, @eq_comm _ behind]
  · rintro ⟨doc, hdoc⟩
    obtain ⟨htags, haccepts, -, -⟩ := (hok doc).1 hdoc
    exact ⟨htags, haccepts⟩
  · rintro ⟨htags, haccepts⟩
    exact ⟨⟨_, ⟨entries _, haccepts.distinct⟩⟩, (hok _).2 ⟨htags, haccepts, rfl, rfl⟩⟩
  · obtain ⟨-, -, hdescription, hentries⟩ := (hok doc).1 hdoc
    refine ⟨hdescription.trans ?_, hentries⟩
    simp [textOf?, unwords]

end TypeSchema.Doc
