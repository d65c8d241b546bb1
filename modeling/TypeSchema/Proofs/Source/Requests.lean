import TypeSchema.Proofs.Batch.Account
import TypeSchema.Proofs.Source.Definition
import TypeSchema.Proofs.Source.Selection

/-!
# What becomes of requests

Names that are asked for go through two filters, and then into a batch; failures come from three
places.

* `contains_of_select`: what is selected is in the table.
* `accounts_of_contains`: **every name of a type in the table** gets a schema or a failure.
* `mem_of_mem_failures`: **every failure** is that of a name, or of a type that derives a schema.
* `mem_failures_collect_iff`: types that derive a schema and can have none are reported whether they
  are asked for or not, and so are those whose doc comments are refused.
* `keys_of_toExcept`: if there are no failures, the schemas are those of the names in order.
-/

namespace TypeSchema.SourceTable

open Batch

variable {P : SourceType → Prop} {table : SourceTable} {names requested : List String}
  {name : String} {config : GeneratorConfig}

/-- What is selected is in the table. -/
theorem contains_of_select (htypes : table.AllTypes P)
    (hselect : table.select requested = .ok names) (hname : name ∈ names) :
    table.contains name = true := by
  unfold select at hselect
  split at hselect
  · split at hselect
    · cases hselect
    · cases hselect
      exact contains_of_mem_eligibleNames htypes hname
  · split at hselect
    · cases hselect
    · next hfound =>
      cases hselect
      simpa using List.find?_eq_none.1 hfound name hname

/-! ### Failures -/

/-- The doc comments that a table reports, each with the type that it is of. -/
theorem mem_docFailures_iff {entry : String × DocError} :
    entry ∈ table.docRegistry.value.2 ↔
      ∃ t ∈ table.eligibleTypes, ∃ e, t.doc = .error e ∧ entry = (t.name, e) := by
  rw [failures_docRegistry, List.mem_filterMap]
  refine exists_congr fun t => and_congr_right fun _ => ?_
  unfold docFailure?
  cases t.doc with
  | ok doc => simp
  | error e => simp [eq_comm]

/-- The types that a table rejects, each with the reason. -/
theorem mem_rejections_iff {entry : String × ValidationError} :
    entry ∈ table.rejections ↔
      ∃ t ∈ table.eligibleTypes, ∃ e, t.rejection? = some e ∧ entry = (t.name, e) := by
  rw [rejections, List.mem_filterMap]
  refine exists_congr fun t => and_congr_right fun _ => ?_
  cases t.rejection? with
  | none => simp
  | some e => simp [eq_comm]

/-- **The failures of a run** are those of its batch, the doc comments that are refused and the
types that are rejected. -/
theorem mem_failures_collect_iff {failure : String × Failure} :
    failure ∈ (table.collect names config).value.failures ↔
      failure ∈ (table.batch names config).failures ∨
        (∃ t ∈ table.eligibleTypes, ∃ e, t.doc = .error e ∧ failure = (t.name, .doc e)) ∨
          ∃ t ∈ table.eligibleTypes, ∃ e, t.rejection? = some e ∧
            failure = (t.name, .validation e) := by
  rw [failures_collect, List.mem_append, List.mem_append, or_assoc, List.mem_map, List.mem_map]
  refine or_congr_right (or_congr ?_ ?_)
  · constructor
    · rintro ⟨entry, hentry, rfl⟩
      obtain ⟨t, ht, e, he, rfl⟩ := mem_docFailures_iff.1 hentry
      exact ⟨t, ht, e, he, rfl⟩
    · rintro ⟨t, ht, e, he, rfl⟩
      exact ⟨(t.name, e), mem_docFailures_iff.2 ⟨t, ht, e, he, rfl⟩, rfl⟩
  · constructor
    · rintro ⟨entry, hentry, rfl⟩
      obtain ⟨t, ht, e, he, rfl⟩ := mem_rejections_iff.1 hentry
      exact ⟨t, ht, e, he, rfl⟩
    · rintro ⟨t, ht, e, he, rfl⟩
      exact ⟨(t.name, e), mem_rejections_iff.2 ⟨t, ht, e, he, rfl⟩, rfl⟩

/-- **Every failure** is that of a name, or of a type that derives a schema. -/
theorem mem_of_mem_failures (htypes : table.AllTypes P) {failure : String × Failure}
    (h : failure ∈ (table.collect names config).value.failures) :
    failure.1 ∈ names ∨ failure.1 ∈ table.eligibleNames := by
  rcases mem_failures_collect_iff.1 h with hbatch | ⟨t, ht, e, -, rfl⟩ | ⟨t, ht, e, -, rfl⟩
  · obtain hbefore | ⟨r, hr, hidentity⟩ := exists_of_mem_failures_runFrom hbatch
    · exact absurd hbefore List.not_mem_nil
    · obtain ⟨name, hname, -, hidname⟩ := exists_of_mem_starts htypes.keyed hr
      rw [← hidentity, hidname]
      exact .inl hname
  · exact .inr (List.mem_map_of_mem ht)
  · exact .inr (List.mem_map_of_mem ht)

/-! ### Names that are asked for -/

/-- The root of a name that is not rejected. -/
theorem exists_start_of_contains (htypes : table.AllTypes P) (hname : name ∈ names)
    (hcontains : table.contains name = true)
    (hkept : ¬ table.rejections.any (fun entry => entry.1 == name) = true) :
    ∃ r ∈ table.starts names, (table.graph names).identity r = name := by
  have hroot : TypeRef.named name ∈ table.roots names :=
    List.mem_map_of_mem (List.mem_filter.2 ⟨hname, by simp [hkept, hcontains]⟩)
  refine ⟨⟨.named name, ?_⟩, mem_starts_iff.2 hroot, Definitions.identity_named htypes.keyed name⟩
  exact List.mem_append_left _ (List.mem_flatMap.2 ⟨_, hroot, TypeRef.self_mem_parts _⟩)

/-- **Every name of a type in the table** gets a schema or a failure. -/
theorem accounts_of_contains (htypes : table.AllTypes P) (hname : name ∈ names)
    (hcontains : table.contains name = true) :
    (table.collect names config).value.Accounts name := by
  by_cases hrejected : table.rejections.any (fun entry => entry.1 == name) = true
  · obtain ⟨⟨_, e⟩, hentry, heq⟩ := List.any_eq_true.1 hrejected
    obtain rfl := eq_of_beq heq
    refine .inr (List.mem_map.2 ⟨(_, .validation e), ?_, rfl⟩)
    rw [failures_collect]
    exact List.mem_append_right _ (List.mem_map_of_mem hentry)
  · have hbatch : (table.batch names config).Accounts name :=
      accounted_runFrom (.inr (exists_start_of_contains htypes hname hcontains hrejected))
    refine hbatch.imp_right fun hfailure => ?_
    obtain ⟨failure, hmem, rfl⟩ := List.mem_map.1 hfailure
    exact List.mem_map_of_mem (mem_failures_collect_iff.2 (.inl hmem))

/-- Without rejections, the roots have the names that are asked for. -/
theorem map_identity_starts (htypes : table.AllTypes P) (hrejections : table.rejections = [])
    (hcontains : ∀ name ∈ names, table.contains name = true) :
    (table.starts names).map (table.graph names).identity = names := by
  have hall : (names.filter fun name =>
      !table.rejections.any (·.1 == name) && table.contains name) = names := by
    refine List.filter_eq_self.2 fun name hname => ?_
    simp [hrejections, hcontains name hname]
  have hstarts : (table.starts names).map (table.graph names).identity =
      (table.roots names).map table.definitions.identity := by
    show ((table.roots names).attach.map _).map _ = _
    rw [List.map_map]
    exact List.attach_map_val (f := table.definitions.identity)
  rw [hstarts, roots, hall, List.map_map]
  refine (List.map_congr_left fun name _ => ?_).trans (List.map_id names)
  exact Definitions.identity_named htypes.keyed name

/-- **The names of the schemas**, if there are no failures: those that were asked for, each where it
came first. -/
theorem keys_of_toExcept (htypes : table.AllTypes P)
    (hcontains : ∀ name ∈ names, table.contains name = true) {schemas : OrderedMap Schema}
    (h : (table.collect names config).value.toExcept = .ok schemas) :
    schemas.keys = names.eraseDups := by
  unfold BatchOutcome.toExcept at h
  split at h
  · next hsuccess =>
    cases h
    have hnone : (table.collect names config).value.failures = [] :=
      List.isEmpty_iff.1 hsuccess
    obtain ⟨hbatch, -, hrejections⟩ := failures_collect_eq_nil_iff.1 hnone
    rw [schemas_collect]
    refine (keys_runFrom hbatch).trans ?_
    rw [map_identity_starts htypes hrejections hcontains]
    refine (foldl_addName names []).trans ?_
    simp
  · cases h

/-! ### What becomes of a selection -/

/-- **No request is dropped.** Whatever the types of a table are, and whatever is asked for: every
name that is selected gets a schema or a failure; every failure is that of a selected name or of a
type that derives a schema; of these types, all whose attributes or doc comments are refused have a
failure that says so, whether they are asked for or not; and if there are no failures, the schemas
are those of the selected names, each where it came first. -/
theorem requests_of_collect (types : List SourceType) (requested names : List String)
    (config : GeneratorConfig)
    (hselect : (empty.insertAll types).value.select requested = .ok names) :
    let table := (empty.insertAll types).value
    let outcome := (table.collect names config).value
    (∀ name ∈ names,
        outcome.schemas.contains name = true ∨ name ∈ outcome.failures.map Prod.fst) ∧
      (∀ failure ∈ outcome.failures, failure.1 ∈ names ∨ failure.1 ∈ table.eligibleNames) ∧
      (∀ t ∈ table.eligibleTypes,
        (∀ e, t.rejection? = some e → (t.name, .validation e) ∈ outcome.failures) ∧
          ∀ e, t.doc = .error e → (t.name, .doc e) ∈ outcome.failures) ∧
      ∀ schemas, outcome.toExcept = .ok schemas → schemas.keys = names.eraseDups := by
  intro table outcome
  have htypes : table.AllTypes fun _ => True := allTypes_empty.insertAll fun _ _ => trivial
  have hcontains : ∀ name ∈ names, table.contains name = true := fun _ =>
    contains_of_select htypes hselect
  refine ⟨?_, ?_, ?_, ?_⟩
  · intro name hname
    exact accounts_of_contains htypes hname (hcontains name hname)
  · intro failure hfailure
    exact mem_of_mem_failures htypes hfailure
  · intro t ht
    constructor
    · intro e he
      exact mem_failures_collect_iff.2 (.inr (.inr ⟨t, ht, e, he, rfl⟩))
    · intro e he
      exact mem_failures_collect_iff.2 (.inr (.inl ⟨t, ht, e, he, rfl⟩))
  · intro schemas hschemas
    exact keys_of_toExcept htypes hcontains hschemas

/-- A book and its author, who derive schemas, and a tuple, which does not. The book may be written
under another name, and what is said of authors may have a tag that is not allowed. -/
def shelf (refused : Bool) : List SourceType :=
  [{ name := "Book", eligible := true, comment := none, renamed := refused,
     shape := .object [plainField "title" (.primitive .string)] },
   { name := "Author", eligible := true, comment := if refused then some "@author" else none,
     renamed := false, shape := .object [plainField "name" (.primitive .string)] },
   { name := "Span", eligible := false, comment := none, renamed := false, shape := .tuple }]

/-- The tuple is asked for twice and has a failure; the book has one, which is not asked for, and so
has the author beside its schema. If nothing is refused, the book and the author have their schemas
in the order in which they are asked for first. -/
theorem requests_of_collect_shelf :
    (let table := (empty.insertAll (shelf true)).value
      let outcome := (table.collect ["Span", "Author", "Span"] {}).value
      (outcome.schemas.contains "Span" = true ∨ "Span" ∈ outcome.failures.map Prod.fst) ∧
        outcome.schemas.contains "Author" = true ∧
        ("Book", .validation ⟨.renamed, ["Book"]⟩) ∈ outcome.failures ∧
        ("Author", .doc (.unsupportedTag "@author")) ∈ outcome.failures) ∧
      let outcome := ((empty.insertAll (shelf false)).value.collect
        ["Author", "Book", "Author"] {}).value
      outcome.toExcept = .ok outcome.schemas ∧ outcome.schemas.keys = ["Author", "Book"] := by
  have hselect : (empty.insertAll (shelf true)).value.select ["Span", "Author", "Span"] =
      .ok ["Span", "Author", "Span"] := by decide
  have hselect' : (empty.insertAll (shelf false)).value.select ["Author", "Book", "Author"] =
      .ok ["Author", "Book", "Author"] := by decide
  have hsuccess : ((empty.insertAll (shelf false)).value.collect
      ["Author", "Book", "Author"] {}).value.isSuccess = true := by cbv
  obtain ⟨hnames, -, hrefused, -⟩ := requests_of_collect (shelf true) _ _ {} hselect
  obtain ⟨-, -, -, hkeys⟩ := requests_of_collect (shelf false) _ _ {} hselect'
  refine ⟨⟨hnames "Span" (by decide), by cbv, ?_, ?_⟩, if_pos hsuccess, ?_⟩
  · exact (hrefused (shelf true)[0] (by decide)).1 _ (by decide)
  · exact (hrefused (shelf true)[1] (by decide)).2 _ (by cbv)
  · exact (hkeys _ (if_pos hsuccess)).trans (by decide)

end TypeSchema.SourceTable
