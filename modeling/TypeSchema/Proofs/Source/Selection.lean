import TypeSchema.Proofs.Batch.Success
import TypeSchema.Proofs.Descriptor.Morphism
import TypeSchema.Proofs.Source.Collect

/-!
# Some of the types of a table

Types of a table can be checked all together, and later some of them can be asked for. The two runs
go through different graphs with validators that have seen different types.

* `failures_collect_eq_nil_iff`: a run is without failures if its batch is and nothing is wrong with
  the doc comments and the attributes of any type.
* `makes_of_collect` and `collect_of_makes` go from a run without failures to its types by themselves,
  and back.
* `collect_of_check`: if nothing is wrong with all types together, nothing is wrong with some of them,
  and they have the same schemas. The table must be `Clear`.
* `check_hides_enumeration` shows what comes of a table that is not: a type **passes only because
  another one is walked before it**.
-/

namespace TypeSchema.SourceTable

open Batch

variable {table : SourceTable} {names more : List String} {config : GeneratorConfig}

/-! ### The types that are asked for -/

/-- More names have more roots. -/
theorem roots_subset (table : SourceTable) (h : names ⊆ more) :
    table.roots names ⊆ table.roots more :=
  List.map_subset _ fun _ hname =>
    have hmem := List.mem_filter.1 hname
    List.mem_filter.2 ⟨h hmem.1, hmem.2⟩

/-- The name of a type that derives a schema is in the table. -/
theorem contains_of_mem_eligibleNames {P : SourceType → Prop} (htypes : table.AllTypes P)
    {name : String} (h : name ∈ table.eligibleNames) : table.contains name = true := by
  obtain ⟨t, ht, rfl⟩ := List.mem_map.1 h
  obtain ⟨entry, hentry, rfl⟩ := List.mem_map.1 (List.mem_filter.1 ht).1
  rw [← (htypes entry hentry).1]
  exact OrderedMap.contains_iff_mem_keys.2 (List.mem_map_of_mem hentry)

/-- The types that derive a schema can be asked for. -/
theorem select_of_subset {P : SourceType → Prop} (htypes : table.AllTypes P) (hsome : names ≠ [])
    (h : names ⊆ table.eligibleNames) : table.select names = .ok names := by
  have hfound : names.find? (fun name => !table.contains name) = none := by
    refine List.find?_eq_none.2 fun name hname => ?_
    simp [contains_of_mem_eligibleNames htypes (h hname)]
  rw [select, if_neg (by simpa using hsome), hfound]

/-- The root of a name: if nothing keeps any type from having a schema, every name in the table has
one. -/
theorem mem_roots (hrejections : table.rejections = []) {name : String} (hname : name ∈ names)
    (hcontains : table.contains name = true) : TypeRef.named name ∈ table.roots names :=
  List.mem_map_of_mem (List.mem_filter.2 ⟨hname, by simp [hrejections, hcontains]⟩)

/-- The starts are the roots. -/
@[simp]
theorem mem_starts_iff {r : {t : TypeRef // t ∈ table.definitions.typeRefs (table.roots names)}} :
    r ∈ table.starts names ↔ r.1 ∈ table.roots names := by
  constructor
  · intro hr
    obtain ⟨root, -, rfl⟩ := List.mem_map.1 hr
    exact root.2
  · exact fun hr => List.mem_map.2 ⟨⟨r.1, hr⟩, List.mem_attach _ _, rfl⟩

/-- A root is that of a name, which is its identity. -/
theorem exists_of_mem_starts (hkeyed : table.definitions.Keyed)
    {r : {t : TypeRef // t ∈ table.definitions.typeRefs (table.roots names)}}
    (hr : r ∈ table.starts names) :
    ∃ name ∈ names, r.1 = .named name ∧ (table.graph names).identity r = name := by
  obtain ⟨name, hname, -, heq⟩ := exists_of_mem_roots (mem_starts_iff.1 hr)
  refine ⟨name, hname, heq, ?_⟩
  show table.definitions.identity r.1 = name
  rw [heq, Definitions.identity_named hkeyed]

/-! ### Runs without failures -/

/-- The documentation that a run uses. -/
abbrev docs (table : SourceTable) : DocRegistry := table.docRegistry.value.1

/-- The batch of a run. -/
abbrev batch (table : SourceTable) (names : List String) (config : GeneratorConfig) :
    BatchOutcome :=
  (Batch.run (table.graph names) table.docs config (table.starts names)).value

/-- A run has the schemas of its batch. -/
@[simp]
theorem schemas_collect (table : SourceTable) (names : List String) (config : GeneratorConfig) :
    (table.collect names config).value.schemas = (table.batch names config).schemas := rfl

/-- The failures of a run are those of its batch, of the comments and of the types that can have
none. -/
theorem failures_collect (table : SourceTable) (names : List String) (config : GeneratorConfig) :
    (table.collect names config).value.failures =
      (table.batch names config).failures ++
        table.docRegistry.value.2.map (fun (name, e) => (name, Failure.doc e)) ++
          table.rejections.map fun (name, e) => (name, Failure.validation e) := rfl

/-- **A run has no failures** if its batch has none, and no type is reported beside it. -/
theorem failures_collect_eq_nil_iff :
    (table.collect names config).value.failures = [] ↔
      (table.batch names config).failures = [] ∧ table.docRegistry.value.2 = [] ∧
        table.rejections = [] := by
  rw [failures_collect]
  simp only [List.append_eq_nil_iff, List.map_eq_nil_iff, and_assoc]

/-- In a run without failures, every root succeeds by itself. -/
theorem makes_of_collect
    (hfaithful : (table.graph names).Faithful (table.starts names))
    (h : (table.collect names config).value.failures = []) :
    ∀ r ∈ table.starts names, ∃ schema, Makes (table.graph names) table.docs config r schema :=
  makes_of_failures_eq_nil hfaithful Validator.supported_new (fun _ => Graph.reachedFrom_of_mem)
    (failures_collect_eq_nil_iff.1 h).1

/-- A run whose roots succeed by themselves has no failures, if no type is reported beside it. -/
theorem collect_of_makes (hdocs : table.docRegistry.value.2 = [])
    (hrejections : table.rejections = [])
    (h : ∀ r ∈ table.starts names,
      ∃ schema, Makes (table.graph names) table.docs config r schema) :
    (table.collect names config).value.failures = [] :=
  failures_collect_eq_nil_iff.2 ⟨failures_runFrom_of_makes h, hdocs, hrejections⟩

/-- The schema of a root stands under its name. -/
theorem get?_collect_of_makes (hkeyed : table.definitions.Keyed) {name : String} {schema : Schema}
    (h : ∀ r ∈ table.starts names,
      ∃ made, Makes (table.graph names) table.docs config r made)
    {r : {t : TypeRef // t ∈ table.definitions.typeRefs (table.roots names)}}
    (hr : r ∈ table.starts names) (hname : r.1 = .named name)
    (hschema : Makes (table.graph names) table.docs config r schema) :
    (table.collect names config).value.schemas.get? name = some schema := by
  have hidentity : ∀ other, (table.graph names).identity r = other ↔ name = other := by
    intro other
    show table.definitions.identity r.1 = other ↔ _
    rw [hname, Definitions.identity_named hkeyed]
  rw [schemas_collect]
  refine get?_runFrom_of_makes h (fun s hs hid => ?_) (.inr ⟨r, hr, (hidentity name).2 rfl⟩)
  obtain ⟨other, -, hother, hidother⟩ := exists_of_mem_starts hkeyed hs
  have hsame : other = name := hidother.symm.trans hid
  have hrs : r = s := Subtype.ext (by rw [hname, hother, hsame])
  exact hrs ▸ hschema

/-! ### All types and some of them -/

/-- What succeeds by itself does so in the graph of any choice of names. -/
theorem makes_widen_iff (h : names ⊆ more) {schema : Schema}
    {r : {t : TypeRef // t ∈ table.definitions.typeRefs (table.roots names)}} :
    Makes (table.graph more) table.docs config
        ((table.definitions.widen (table.roots_subset h)).map r) schema ↔
      Makes (table.graph names) table.docs config r schema := by
  let φ := table.definitions.widen (table.roots_subset h)
  constructor
  · exact fun hmakes => ⟨(φ.sound_map_iff r).1 hmakes.sound, φ.schema_map _ _ r ▸ hmakes.schema_eq⟩
  · exact fun hmakes =>
      ⟨(φ.sound_map_iff r).2 hmakes.sound, (φ.schema_map _ _ r).symm ▸ hmakes.schema_eq⟩

/-- **Nothing is wrong with some types of a table if nothing is wrong with all of them.** In a table of
any types such as source text can give: if all types that derive a schema have one and no failure is
reported, then any of them can be asked for, in any order and with repetitions; no failure is
reported, and each has the schema that it had among all. -/
theorem collect_of_check {types : List SourceType} {names : List String}
    (hnamed : ∀ t ∈ types, t.WellNamed)
    (hclear : (empty.insertAll types).value.Clear (empty.insertAll types).value.eligibleNames)
    (config : GeneratorConfig)
    (hcheck : ((empty.insertAll types).value.collect (empty.insertAll types).value.eligibleNames
      config).value.failures = [])
    (hsome : names ≠ []) (hnames : names ⊆ (empty.insertAll types).value.eligibleNames) :
    let table := (empty.insertAll types).value
    let checked := (table.collect table.eligibleNames config).value
    let outcome := (table.collect names config).value
    table.select names = .ok names ∧ outcome.failures = [] ∧
      ∀ name ∈ names, ∃ schema,
        outcome.schemas.get? name = some schema ∧ checked.schemas.get? name = some schema := by
  intro table checked outcome
  have htypes : table.AllTypes SourceType.WellNamed := allTypes_empty.insertAll hnamed
  have hfaithful : (table.graph table.eligibleNames).Faithful (table.starts table.eligibleNames) :=
    Definitions.faithful_graph htypes.keyed htypes.wellNamed_typeRefs hclear
  obtain ⟨-, hdocs, hrejections⟩ := failures_collect_eq_nil_iff.1 hcheck
  have hall := makes_of_collect hfaithful hcheck
  let φ := table.definitions.widen (table.roots_subset hnames)
  have hwiden : ∀ r ∈ table.starts names, φ.map r ∈ table.starts table.eligibleNames :=
    fun r hr => mem_starts_iff.2 (table.roots_subset hnames (mem_starts_iff.1 hr))
  have hsubset : ∀ r ∈ table.starts names,
      ∃ schema, Makes (table.graph names) table.docs config r schema := by
    intro r hr
    obtain ⟨schema, hschema⟩ := hall _ (hwiden r hr)
    exact ⟨schema, (makes_widen_iff hnames).1 hschema⟩
  refine ⟨select_of_subset htypes hsome hnames, collect_of_makes hdocs hrejections hsubset,
    fun name hname => ?_⟩
  have hroot : TypeRef.named name ∈ table.roots names :=
    mem_roots hrejections hname (contains_of_mem_eligibleNames htypes (hnames hname))
  let r : {t : TypeRef // t ∈ table.definitions.typeRefs (table.roots names)} :=
    ⟨.named name, List.mem_append_left _ (List.mem_flatMap.2 ⟨_, hroot, TypeRef.self_mem_parts _⟩)⟩
  have hr : r ∈ table.starts names := mem_starts_iff.2 hroot
  obtain ⟨schema, hschema⟩ := hsubset r hr
  exact ⟨schema, get?_collect_of_makes htypes.keyed hsubset hr rfl hschema,
    get?_collect_of_makes htypes.keyed hall (hwiden r hr) rfl
      ((makes_widen_iff hnames).2 hschema)⟩

/-- Two structs, of which the second one has a list of a type that is called like the whole numbers in
the list of the first one. -/
def lookalikesApart (derives : Bool) : List SourceType :=
  [{ name := "First", eligible := true, comment := none, renamed := false,
     shape := .object [plainField "plain" (.list (.primitive .int))] },
   { name := "Second", eligible := true, comment := none, renamed := false,
     shape := .object [plainField "named" (.list (.named "Int"))] },
   { name := "Int", eligible := derives, comment := none, renamed := false,
     shape := .enumeration ["One", "Two"] }]

/-- If the enumeration derives a schema, the second struct can be asked for twice and together with
it. -/
theorem collect_of_check_lookalikes :
    let table := (empty.insertAll (lookalikesApart true)).value
    let checked := (table.collect table.eligibleNames {}).value
    let outcome := (table.collect ["Int", "Second", "Int"] {}).value
    checked.failures = [] ∧
      table.select ["Int", "Second", "Int"] = .ok ["Int", "Second", "Int"] ∧
      outcome.failures = [] ∧
      ∀ name ∈ ["Int", "Second", "Int"], ∃ schema,
        outcome.schemas.get? name = some schema ∧ checked.schemas.get? name = some schema := by
  have hnamed : ∀ t ∈ lookalikesApart true, t.WellNamed := by decide
  have hclear : (empty.insertAll (lookalikesApart true)).value.Clear
      (empty.insertAll (lookalikesApart true)).value.eligibleNames := clear_of_forall (by decide)
  have hcheck : ((empty.insertAll (lookalikesApart true)).value.collect
      (empty.insertAll (lookalikesApart true)).value.eligibleNames {}).value.failures = [] := by cbv
  exact ⟨hcheck, collect_of_check hnamed hclear {} hcheck (by decide) (by decide)⟩

/-- If it does not, all types together pass, because the list of whole numbers is walked first. The
second struct fails when it is asked for alone. -/
theorem check_hides_enumeration :
    let table := (empty.insertAll (lookalikesApart false)).value
    "Second" ∈ table.eligibleNames ∧
      (table.collect table.eligibleNames {}).value.failures = [] ∧
      (table.collect ["Second"] {}).value.failures =
        [("Second", .validation ⟨.enumNotEligible "Int", ["Second.named", "List<Int>"]⟩)] :=
  ⟨by decide, by cbv, by cbv⟩

end TypeSchema.SourceTable
