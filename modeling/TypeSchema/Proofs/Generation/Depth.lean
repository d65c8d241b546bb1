import TypeSchema.Proofs.Generation.FirstDefect
import TypeSchema.Proofs.Generation.Image

/-!
# The depth limit

How far a type unfolds is a matter of the type alone. The limit decides how much of that is looked at,
and nothing else: with a higher limit a run goes the same way, and further.

* `schemaAt_eq_ok_mono`: a schema that is made with some levels is made with more of them.
* `IsHeight` is the number of steps of the longest trail from a type, and `LiesAt` says how deep the end
  of a trail lies.
* `defect?_of_le`: a limit that a type keeps does not show in the defect of the type. What is first
  under one limit is therefore first under another, or lies just below the limit (`IsFirst.liesAt`).
* `Graph.schema_of_limits` puts runs under all limits side by side: **the limit is exact and monotone**.
-/

namespace TypeSchema

namespace Generator

open Attempt

variable {Ref : Type} {g : Graph Ref} {docs : DocRegistry}

/-! ### Runs with more levels -/

/-- Fields that are read stay as they are if the parts are. -/
theorem readFields_eq_ok_mono {schemaOf schemaOf' : Ref → Attempt SchemaError Schema}
    (hparts : ∀ r schema, (schemaOf r).result = .ok schema → (schemaOf' r).result = .ok schema)
    {identity : String} {elements : List (Element Ref)} {fields out : Fields}
    (h : (readFields g docs schemaOf identity elements fields).result = .ok out) :
    (readFields g docs schemaOf' identity elements fields).result = .ok out := by
  induction elements generalizing fields with
  | nil => exact h
  | cons element rest ih =>
    obtain ⟨schema, hfirst, hrest⟩ := result_bind_eq_ok_iff.1 h
    exact result_bind_eq_ok_iff.2 ⟨schema, hparts _ _ hfirst, ih hrest⟩

/-- A container stays as it is if its part does. -/
theorem container_eq_ok_mono {schemaOf schemaOf' : Ref → Attempt SchemaError Schema}
    (hparts : ∀ r schema, (schemaOf r).result = .ok schema → (schemaOf' r).result = .ok schema)
    {part? : Except SchemaError Ref} {wrap : Schema → Schema} {schema : Schema}
    (h : Attempt.result (do return wrap (← schemaOf (← ofExcept part?))) = .ok schema) :
    Attempt.result (do return wrap (← schemaOf' (← ofExcept part?))) = .ok schema := by
  obtain ⟨part, hpart, h⟩ := result_bind_eq_ok_iff.1 h
  obtain ⟨inner, hinner, hwrap⟩ := result_bind_eq_ok_iff.1 h
  apply result_bind_eq_ok_iff.2
  refine ⟨part, hpart, ?_⟩
  exact result_bind_eq_ok_iff.2 ⟨inner, hparts part inner hinner, hwrap⟩

/-- **A step that succeeds** succeeds alike where the parts do. -/
theorem schemaOfNode_eq_ok_mono {schemaOf schemaOf' : List String → Ref → Attempt SchemaError Schema}
    (hparts : ∀ path r schema, (schemaOf path r).result = .ok schema →
      (schemaOf' path r).result = .ok schema)
    {path : List String} {node : Node Ref} {schema : Schema}
    (h : (schemaOfNode g docs schemaOf path node).result = .ok schema) :
    (schemaOfNode g docs schemaOf' path node).result = .ok schema := by
  unfold schemaOfNode at h ⊢
  cases hkind : node.kind with
  | primitive | enumeration | polymorphic | contextual =>
    simp only [hkind] at h ⊢
    exact h
  | list | set | map =>
    simp only [hkind] at h ⊢
    exact container_eq_ok_mono (hparts path) h
  | object =>
    simp only [hkind] at h ⊢
    split at h
    · cases h
    next heligible =>
      split at h
      · cases h
      next houtside =>
        rw [if_neg heligible, if_neg houtside]
        obtain ⟨fields, hfields, hobject⟩ := result_bind_eq_ok_iff.1 h
        apply result_bind_eq_ok_iff.2
        exact ⟨fields, readFields_eq_ok_mono (hparts (node.identity :: path)) hfields, hobject⟩

/-- **A run that succeeds** succeeds alike with more levels, whatever the limit is that errors name. -/
theorem schemaAt_eq_ok_mono {maxDepth maxDepth' levels levels' : Nat} {path : List String} {r : Ref}
    {schema : Schema} (hlevels : levels ≤ levels')
    (h : (schemaAt g docs maxDepth levels path r).result = .ok schema) :
    (schemaAt g docs maxDepth' levels' path r).result = .ok schema := by
  induction levels generalizing levels' path r schema with
  | zero => cases h
  | succ levels ih =>
    obtain ⟨more, rfl⟩ : ∃ more, levels' = more + 1 := ⟨levels' - 1, by omega⟩
    have hmore : levels ≤ more := by omega
    rw [schemaAt, result_bind_of_ok (result_emit _)] at h ⊢
    apply schemaOfNode_eq_ok_mono _ h
    intro path s part hpart
    exact ih hmore hpart

end Generator

namespace Graph

open Generator

variable {Ref : Type} {g : Graph Ref} {docs : DocRegistry} {r : Ref}

/-- A schema that was made stays the same when the limit is raised. -/
theorem schema_eq_ok_mono {config config' : GeneratorConfig} {schema : Schema}
    (hdepth : config.maxDepth ≤ config'.maxDepth) (h : (g.schema docs config r).result = .ok schema) :
    (g.schema docs config' r).result = .ok schema :=
  schemaAt_eq_ok_mono (Nat.succ_le_succ hdepth) h

/-! ### Heights -/

/-- Is this the height of the unfolded type, the number of steps on its longest way down? -/
structure IsHeight (g : Graph Ref) (r : Ref) (height : Nat) : Prop where
  /-- A way down has so many steps. -/
  reached : ∃ turns segments passed last, g.Trail r turns segments passed last ∧
    passed.length = height
  /-- No way down has more. -/
  bound : ∀ turns segments passed last, g.Trail r turns segments passed last →
    passed.length ≤ height

/-- A type whose trails are bounded has a height. -/
theorem exists_isHeight {limit : Nat} (h : ∀ turns segments passed last,
    g.Trail r turns segments passed last → passed.length ≤ limit) :
    ∃ height, g.IsHeight r height := by
  let lengths : Set Nat := {n | ∃ turns segments passed last,
    g.Trail r turns segments passed last ∧ passed.length = n}
  have hnonempty : lengths.Nonempty := ⟨0, [], [], [], r, .here r, rfl⟩
  have hbounded : BddAbove lengths := by
    refine ⟨limit, ?_⟩
    rintro n ⟨turns, segments, passed, last, htrail, rfl⟩
    exact h turns segments passed last htrail
  refine ⟨sSup lengths, Nat.sSup_mem hnonempty hbounded, ?_⟩
  intro turns segments passed last htrail
  exact le_csSup hbounded ⟨turns, segments, passed, last, htrail, rfl⟩

/-! ### The start of a trail -/

/-- A trail starts with the trails to the types it passes. -/
theorem Trail.take {last : Ref} {turns : List Nat} {segments : List String} {passed : List Ref}
    (h : g.Trail r turns segments passed last) {n : Nat} (hn : n ≤ passed.length) :
    ∃ segments' passed' last', g.Trail r (turns.take n) segments' passed' last' ∧
      passed'.length = n := by
  induction h generalizing n with
  | here r =>
    obtain rfl := Nat.le_zero.1 hn
    exact ⟨[], [], r, .here r, rfl⟩
  | @down r s last position segment turns segments passed hstep _ ih =>
    cases n with
    | zero => exact ⟨[], [], r, .here r, rfl⟩
    | succ n =>
      obtain ⟨segments', passed', last', hrest, hlength⟩ := ih (Nat.le_of_succ_le_succ hn)
      refine ⟨segment :: segments', r :: passed', last', .down hstep hrest, ?_⟩
      rw [List.length_cons, hlength]

/-- What starts a trail does not come after it. -/
theorem not_lex_take (turns : List Nat) (n : Nat) :
    ¬ List.Lex (· < ·) turns (turns.take n) := by
  induction turns generalizing n with
  | nil =>
    rw [List.take_nil]
    intro h
    cases h
  | cons turn turns ih =>
    cases n with
    | zero =>
      intro h
      cases h
    | succ n =>
      intro h
      cases h with
      | cons h => exact ih n h
      | rel h => exact lt_irrefl turn h

/-! ### Defects under two limits -/

variable {limit limit' : Nat} {above : List Ref}

/-- Below the limit there is nothing but the limit. -/
theorem defect?_of_lt (h : limit < above.length) :
    g.defect? limit above r = some (.depthExceeded (g.identity r) limit) := if_pos h

/-- A type at which a defect is met is defective. -/
theorem IsDefect.defective {segments : List String} {e : SchemaError}
    (h : g.IsDefect limit segments above r e) : g.Defective limit above r := by
  rw [Defective, show g.defect? limit above r = some e from h]
  rfl

/-- Deeper than the limit, every type is defective. -/
theorem defective_of_lt (h : limit < above.length) : g.Defective limit above r := by
  rw [Defective, defect?_of_lt h]
  rfl

/-- **Limits that a type keeps** do not show in its defect. -/
theorem defect?_of_le (h : above.length ≤ limit) (h' : above.length ≤ limit') :
    g.defect? limit above r = g.defect? limit' above r := by
  unfold defect?
  rw [if_neg (Nat.not_lt.2 h), if_neg (Nat.not_lt.2 h')]

/-- What is a defect under a limit is one under a lower limit. -/
theorem Defective.of_le (h : g.Defective limit' above r) (hle : limit ≤ limit') :
    g.Defective limit above r := by
  rcases Nat.lt_or_ge limit above.length with hbelow | hwithin
  · exact defective_of_lt hbelow
  · unfold Defective
    rw [defect?_of_le hwithin (hwithin.trans hle)]
    exact h

/-- A defect of another kind lies within the limit. -/
theorem length_le_of_defect? {e : SchemaError} (h : g.defect? limit above r = some e)
    (hother : ∀ id max, e ≠ .depthExceeded id max) : above.length ≤ limit := by
  by_contra hbelow
  rw [defect?_of_lt (Nat.not_le.1 hbelow), Option.some.injEq] at h
  exact hother _ _ h.symm

/-- Where there is no defect on any trail, no trail goes below the limit. -/
theorem Clear.length_le (h : g.Clear (g.Defective limit) [] r) {turns : List Nat}
    {segments : List String} {passed : List Ref} {last : Ref}
    (htrail : g.Trail r turns segments passed last) : passed.length ≤ limit := by
  by_contra hbelow
  apply h turns
  exact ⟨segments, passed, last, htrail, defective_of_lt (Nat.not_le.1 hbelow)⟩

/-- Where there is no defect on any trail, trails that go below another limit are all that is wrong
under that one. -/
theorem Clear.lt_length (h : g.Clear (g.Defective limit) [] r) {turns : List Nat}
    {segments : List String} {passed : List Ref} {last : Ref}
    (htrail : g.Trail r turns segments passed last) (hdefect : g.Defective limit' passed last) :
    limit' < passed.length := by
  by_contra hwithin
  apply h turns
  refine ⟨segments, passed, last, htrail, ?_⟩
  rw [Defective, List.nil_append,
    defect?_of_le (h.length_le htrail) (Nat.not_lt.1 hwithin)]
  exact hdefect

/-- Does the end of a trail lie at the given depth? -/
def LiesAt (depth : Nat) (above : List Ref) (_r : Ref) : Prop := above.length = depth

/-- What lies just below the limit is a defect. -/
theorem LiesAt.defective (h : LiesAt (limit + 1) above r) : g.Defective limit above r := by
  apply defective_of_lt
  unfold LiesAt at h
  omega

/-- **What is first below a limit** lies just below it, if there is nothing else to be found: it is the
first type at its depth. -/
theorem IsFirst.liesAt {turns : List Nat} (h : g.IsFirst (g.Defective limit) [] r turns)
    (honly : ∀ turns segments passed last, g.Trail r turns segments passed last →
      g.Defective limit passed last → limit < passed.length) :
    g.IsFirst (LiesAt (limit + 1)) [] r turns := by
  obtain ⟨segments, passed, last, htrail, hdefect⟩ := h.meets
  rw [List.nil_append] at hdefect
  have hbelow : limit + 1 ≤ passed.length := honly turns segments passed last htrail hdefect
  obtain ⟨segments', passed', last', htrail', hlength⟩ := htrail.take hbelow
  have hmeets : g.Meets (g.Defective limit) [] r (turns.take (limit + 1)) :=
    ⟨segments', passed', last', htrail', LiesAt.defective hlength⟩
  -- The trail that ends at this depth comes no later than the first one, so it is the first one.
  have htake : turns.take (limit + 1) = turns :=
    (h.least _ hmeets).resolve_right (not_lex_take turns _)
  rw [htake] at htrail'
  refine ⟨⟨segments', passed', last', htrail', hlength⟩, ?_⟩
  rintro other ⟨segments'', passed'', last'', hother, hdepth⟩
  apply h.least
  exact ⟨segments'', passed'', last'', hother, hdepth.defective⟩

/-! ### Runs under all limits -/

/-- A run from the root finds what is first. -/
theorem finds_schema (config : GeneratorConfig) :
    g.Finds (g.Defective config.maxDepth) (g.IsDefect config.maxDepth) [] r
      (g.schema docs config r).result := finds_schemaAt rfl encloses_nil

/-- **Under a limit that a type keeps**, a type that has a schema under some limit has that schema. -/
theorem schema_eq_ok_of_isHeight {config config' : GeneratorConfig} {schema : Schema} {height : Nat}
    (h : (g.schema docs config r).result = .ok schema) (hheight : g.IsHeight r height)
    (hle : height ≤ config'.maxDepth) : (g.schema docs config' r).result = .ok schema := by
  have hclear := (finds_schema config).clear schema h
  rcases Nat.le_total config.maxDepth config'.maxDepth with hmore | hless
  · exact schema_eq_ok_mono hmore h
  · cases hresult : (g.schema docs config' r).result with
    | ok other =>
      rw [schema_eq_ok_mono hless hresult] at h
      exact h
    | error e =>
      obtain ⟨turns, segments, passed, last, -, htrail, hdefect⟩ :=
        (finds_schema config').reports e hresult
      have hwithin := hheight.bound turns segments passed last htrail
      have hbelow := hclear.lt_length htrail hdefect.defective
      omega

/-- **Under a limit that a type does not keep**, a type that has a schema under some limit fails at its
first part just below the limit. -/
theorem schema_eq_error_of_isHeight {config config' : GeneratorConfig} {schema : Schema}
    {height : Nat} (h : (g.schema docs config r).result = .ok schema)
    (hheight : g.IsHeight r height) (hlt : config'.maxDepth < height) :
    ∃ turns segments passed last, g.IsFirst (LiesAt (config'.maxDepth + 1)) [] r turns ∧
      g.Trail r turns segments passed last ∧ (g.schema docs config' r).result =
        .error (.depthExceeded (g.identity last) config'.maxDepth) := by
  have hclear := (finds_schema config).clear schema h
  obtain ⟨longest, segments, passed, last, htrail, hlength⟩ := hheight.reached
  cases hresult : (g.schema docs config' r).result with
  | ok other =>
    have hkept := ((finds_schema config').clear other hresult).length_le htrail
    omega
  | error e =>
    obtain ⟨turns, segments, passed, last, hfirst, hend, hdefect⟩ :=
      (finds_schema config').reports e hresult
    have hbelow := hclear.lt_length hend hdefect.defective
    refine ⟨turns, segments, passed, last, hfirst.liesAt fun _ _ _ _ => hclear.lt_length, hend, ?_⟩
    rw [IsDefect, List.nil_append, defect?_of_lt hbelow, Option.some.injEq] at hdefect
    rw [hdefect]

/-- **An error other than the limit** stays what it is under a higher limit. -/
theorem schema_eq_error_mono {config config' : GeneratorConfig} {e : SchemaError}
    (h : (g.schema docs config r).result = .error e)
    (hother : ∀ id max, e ≠ .depthExceeded id max) (hle : config.maxDepth ≤ config'.maxDepth) :
    (g.schema docs config' r).result = .error e := by
  obtain ⟨turns, segments, passed, last, hfirst, htrail, hdefect⟩ :=
    (finds_schema config).reports e h
  have hwithin := length_le_of_defect? hdefect hother
  have hdefect' : g.IsDefect config'.maxDepth segments ([] ++ passed) last e := by
    rw [IsDefect, defect?_of_le (hwithin.trans hle) hwithin]
    exact hdefect
  have hfirst' : g.IsFirst (g.Defective config'.maxDepth) [] r turns := by
    refine ⟨⟨segments, passed, last, htrail, hdefect'.defective⟩, ?_⟩
    rintro other ⟨segments', passed', last', hother', hdefective⟩
    exact hfirst.least other ⟨segments', passed', last', hother', hdefective.of_le hle⟩
  apply ((finds_schema config').eq_error_iff fun _ _ _ _ _ => IsDefect.unique).2
  exact ⟨turns, segments, passed, last, hfirst', htrail, hdefect'⟩

/-- **The limit is exact and monotone.** A type that has a schema under some limit has a height. Under
every limit that is not lower it has that schema, and under every lower limit it fails, naming the limit
and the first type, in depth-first order, that lies one step below it. An error of another kind stays
the same under all higher limits. -/
theorem schema_of_limits (g : Graph Ref) (docs : DocRegistry) (r : Ref) :
    (∀ limit schema, (g.schema docs { maxDepth := limit } r).result = .ok schema →
        (∃ height, g.IsHeight r height) ∧ ∀ height, g.IsHeight r height → ∀ m,
          (height ≤ m → (g.schema docs { maxDepth := m } r).result = .ok schema) ∧
            (m < height → ∃ turns segments passed last, g.IsFirst (LiesAt (m + 1)) [] r turns ∧
              g.Trail r turns segments passed last ∧
                (g.schema docs { maxDepth := m } r).result =
                  .error (.depthExceeded (g.identity last) m))) ∧
      ∀ m e, (g.schema docs { maxDepth := m } r).result = .error e →
        (∀ id max, e ≠ .depthExceeded id max) →
          ∀ more, m < more → (g.schema docs { maxDepth := more } r).result = .error e := by
  constructor
  · intro limit schema h
    have hclear := (finds_schema { maxDepth := limit }).clear schema h
    refine ⟨exists_isHeight fun _ _ _ _ => hclear.length_le, ?_⟩
    intro height hheight m
    exact ⟨schema_eq_ok_of_isHeight h hheight, schema_eq_error_of_isHeight h hheight⟩
  · intro m e h hother more hlt
    exact schema_eq_error_mono h hother hlt.le

/-- The longest trails of an order lead to a tag and to the name of a person. With one level less the
name of the customer is too deep. A child inside itself is found as soon as the limit allows to go
there. -/
theorem schema_of_limits_order :
    (order.schema orderDocs { maxDepth := 64 } 0).result = .ok orderImage ∧ order.IsHeight 0 2 ∧
      (order.schema orderDocs { maxDepth := 2 } 0).result = .ok orderImage ∧
      (∃ turns segments passed last, order.IsFirst (LiesAt 2) [] 0 turns ∧
        order.Trail 0 turns segments passed last ∧ (order.schema orderDocs { maxDepth := 1 } 0).result =
          .error (.depthExceeded (order.identity last) 1)) ∧
      (family.schema .empty { maxDepth := 4 } 4).result = .error (.recursiveType "Child") ∧
      (family.schema .empty { maxDepth := 9 } 4).result = .error (.recursiveType "Child") := by
  have hschema : (order.schema orderDocs { maxDepth := 64 } 0).result = .ok orderImage := by cbv
  have htwo : (order.schema orderDocs { maxDepth := 2 } 0).result = .ok orderImage := by cbv
  have hchild : (family.schema .empty { maxDepth := 4 } 4).result = .error (.recursiveType "Child") := by
    cbv
  have htag : order.Trail 0 [3, 0] ["Order.tags", "Set<String>"] [0, 3] 4 :=
    .down rfl (.down rfl (.here 4))
  have hheight : order.IsHeight 0 2 :=
    ⟨⟨_, _, _, _, htag, rfl⟩, fun _ _ _ _ => ((finds_schema _).clear _ htwo).length_le⟩
  obtain ⟨hlimits, herrors⟩ := schema_of_limits order orderDocs 0
  obtain ⟨-, hall⟩ := hlimits 64 orderImage hschema
  obtain ⟨hkept, -⟩ := hall 2 hheight 2
  obtain ⟨-, hexceeded⟩ := hall 2 hheight 1
  refine ⟨hschema, hheight, hkept (Nat.le_refl 2), hexceeded (by decide), hchild, ?_⟩
  exact (schema_of_limits family .empty 4).2 4 _ hchild (by simp) 9 (by decide)

/-- The name of the customer is the first type two steps below an order. -/
example : (order.schema orderDocs { maxDepth := 1 } 0).result = .error (.depthExceeded "String" 1) := by
  cbv

end Graph

end TypeSchema
