import TypeSchema.Proofs.Descriptor.Trail
import TypeSchema.Proofs.Generation.Step

/-!
# The error that is raised

Generation unfolds a type along all its trails, and fails at the first defect that it comes to. What a
defect is depends on the way to it: how deep the type lies, and which objects it lies inside.
`Graph.defect?` says so without a run of the generator, and lists what is looked at in order.

* `defect?_eq_fault?` ties it to the step of the generator. The types above take the place of the path
  that the generator keeps (`Encloses`).
* `finds_schemaAt` is the run, by induction on the levels.
* `Graph.schema_eq_error_iff_first_defect` is the run from the root. It asks nothing of the graph.
-/

namespace TypeSchema

/-! ### Defects on a way -/

namespace Graph

variable {Ref : Type} (g : Graph Ref)

/-- The defect of a type that lies below the types `above`, the first that applies of these: the type
lies deeper than allowed, it is a container with a wrong number of elements, an object that has not
asked for a schema, an object inside an object of its identity, or it is known by name only. -/
def defect? (maxDepth : Nat) (above : List Ref) (r : Ref) : Option SchemaError :=
  if maxDepth < above.length then some (.depthExceeded (g.identity r) maxDepth)
  else
    match (g.node r).kind with
    | .list | .set => Generator.misfit? 1 (g.node r)
    | .map => Generator.misfit? 2 (g.node r)
    | .object =>
      if (g.node r).eligible = false then some (.notEligible (g.identity r))
      else if ∃ o ∈ above, (g.node o).kind = .object ∧ g.identity o = g.identity r then
        some (.recursiveType (g.identity r))
      else none
    | .contextual => some (.unsupportedKind (g.identity r))
    | .primitive _ | .enumeration _ | .polymorphic => none

/-- Has the type a defect below the types `above`? -/
def Defective (maxDepth : Nat) (above : List Ref) (r : Ref) : Prop :=
  (g.defect? maxDepth above r).isSome = true

/-- Is the error the defect of the type? The texts of the steps to it say nothing. -/
def IsDefect (maxDepth : Nat) (_segments : List String) (above : List Ref) (r : Ref)
    (e : SchemaError) : Prop :=
  g.defect? maxDepth above r = some e

variable {g}

/-- There is one defect at a place. -/
theorem IsDefect.unique {maxDepth : Nat} {segments : List String} {above : List Ref} {r : Ref}
    {e e' : SchemaError} (h : g.IsDefect maxDepth segments above r e)
    (h' : g.IsDefect maxDepth segments above r e') : e = e' :=
  Option.some.inj (h.symm.trans h')

/-- A defect is reported where it stands. -/
theorem reports_of_defect? {maxDepth : Nat} {above : List Ref} {r : Ref} {e : SchemaError}
    (h : g.defect? maxDepth above r = some e) :
    g.Reports (g.Defective maxDepth) (g.IsDefect maxDepth) above r e :=
  reports_nil (by simp [Defective, h]) h

end Graph

namespace Generator

open Attempt

variable {Ref : Type} {g : Graph Ref} {docs : DocRegistry} {maxDepth : Nat} {above : List Ref}
  {path : List String} {r : Ref}

/-! ### The types above and the path -/

/-- Does the path hold the identities of the objects among the types above? -/
def Encloses (g : Graph Ref) (above : List Ref) (path : List String) : Prop :=
  ∀ id, id ∈ path ↔ ∃ o ∈ above, (g.node o).kind = .object ∧ g.identity o = id

/-- Nothing encloses nothing. -/
@[simp] theorem encloses_nil : Encloses g [] [] := by
  intro id
  simp

/-- Inside a type the path has grown with the types above. -/
theorem Encloses.around (h : Encloses g above path) (r : Ref) :
    Encloses g (above ++ [r]) (around path (g.node r)) := by
  intro id
  by_cases hobject : (g.node r).kind = .object
  · rw [around_of_object hobject, List.mem_cons, h id]
    constructor
    · rintro (rfl | ⟨o, ho, hkind, hid⟩)
      · exact ⟨r, by simp, hobject, rfl⟩
      · exact ⟨o, by simp [ho], hkind, hid⟩
    · rintro ⟨o, ho, hkind, hid⟩
      rcases List.mem_append.1 ho with ho | ho
      · exact .inr ⟨o, ho, hkind, hid⟩
      · rw [List.mem_singleton.1 ho] at hid
        exact .inl hid.symm
  · rw [around_of_ne_object hobject, h id]
    constructor
    · rintro ⟨o, ho, hkind, hid⟩
      exact ⟨o, by simp [ho], hkind, hid⟩
    · rintro ⟨o, ho, hkind, hid⟩
      rcases List.mem_append.1 ho with ho | ho
      · exact ⟨o, ho, hkind, hid⟩
      · rw [List.mem_singleton.1 ho] at hkind
        exact absurd hkind hobject

/-- Where a type lies no deeper than allowed, its defect is what a step fails for. -/
theorem defect?_eq_fault? (hdepth : above.length ≤ maxDepth) (hpath : Encloses g above path) :
    g.defect? maxDepth above r = fault? path (g.node r) := by
  have hinside : (g.node r).identity ∈ path ↔
      ∃ o ∈ above, (g.node o).kind = .object ∧ g.identity o = g.identity r := hpath _
  rw [Graph.defect?, if_neg (Nat.not_lt.2 hdepth), fault?]
  cases (g.node r).kind
  case object => exact if_congr Iff.rfl rfl (if_congr hinside.symm rfl rfl)
  all_goals rfl

/-! ### A run -/

/-- **A run finds what is first**, with as many levels left as the limit allows below the types
above. -/
theorem finds_schemaAt {levels : Nat} (hlevels : levels + above.length = maxDepth + 1)
    (hpath : Encloses g above path) :
    g.Finds (g.Defective maxDepth) (g.IsDefect maxDepth) above r
      (schemaAt g docs maxDepth levels path r).result := by
  induction levels generalizing above path r with
  | zero =>
    refine ⟨by rintro schema ⟨⟩, ?_⟩
    rintro e ⟨⟩
    apply Graph.reports_of_defect?
    rw [Graph.defect?, if_pos (by omega)]
  | succ levels ih =>
    have hdepth : above.length ≤ maxDepth := by omega
    have hpart : ∀ s, g.Finds (g.Defective maxDepth) (g.IsDefect maxDepth) (above ++ [r]) s
        (schemaAt g docs maxDepth levels (around path (g.node r)) s).result := by
      intro s
      apply ih _ (hpath.around r)
      rw [List.length_append, List.length_singleton]
      omega
    rw [schemaAt, result_bind_of_ok (result_emit _)]
    cases hdefect : g.defect? maxDepth above r with
    | some d =>
      rw [schemaOfNode_of_fault? (defect?_eq_fault? hdepth hpath ▸ hdefect)]
      refine ⟨by rintro schema ⟨⟩, ?_⟩
      rintro e ⟨⟩
      exact Graph.reports_of_defect? hdefect
    | none =>
      have hnot : ¬ g.Defective maxDepth above r := by simp [Graph.Defective, hdefect]
      refine ⟨fun schema hok => ?_, fun e herror => ?_⟩
      · apply Graph.clear_of_parts hnot
        intro s hs
        obtain ⟨part, hpartok⟩ := (made_of_schemaOfNode hok).part hs
        exact (hpart s).clear part hpartok
      · obtain ⟨position, s, hs, hparterror, hbefore⟩ :=
          exists_part_of_schemaOfNode (defect?_eq_fault? hdepth hpath ▸ hdefect) herror
        obtain ⟨segment, hstep⟩ := Graph.exists_branch hs
        have hreports := (hpart s).reports e hparterror
        refine hreports.cons hnot hstep (fun earlier hearlier t ht => ?_) fun _ _ _ hinner => hinner
        obtain ⟨part, hpartok⟩ := hbefore earlier hearlier t ht
        exact (hpart t).clear part hpartok

end Generator

namespace Graph

open Generator

variable {Ref : Type} {g : Graph Ref}

/-- **Generation fails where there is a defect, and with the first one.** For any graph, documentation
and limit, it fails if and only if some trail from the root ends at a defect, and its error is the
defect at the end of the first such trail in depth-first order. -/
theorem schema_eq_error_iff_first_defect (g : Graph Ref) (docs : DocRegistry)
    (config : GeneratorConfig) (r : Ref) :
    ((∃ e, (g.schema docs config r).result = .error e) ↔
        ∃ turns segments passed last e, g.Trail r turns segments passed last ∧
          g.defect? config.maxDepth passed last = some e) ∧
      ∀ e, (g.schema docs config r).result = .error e ↔
        ∃ turns segments passed last, g.IsFirst (g.Defective config.maxDepth) [] r turns ∧
          g.Trail r turns segments passed last ∧
            g.defect? config.maxDepth passed last = some e := by
  have hfinds : g.Finds (g.Defective config.maxDepth) (g.IsDefect config.maxDepth) [] r
      (g.schema docs config r).result := finds_schemaAt rfl encloses_nil
  refine ⟨⟨?_, ?_⟩, fun e => hfinds.eq_error_iff fun _ _ _ _ _ => IsDefect.unique⟩
  · rintro ⟨e, herror⟩
    obtain ⟨turns, segments, passed, last, -, htrail, hdefect⟩ := hfinds.reports e herror
    exact ⟨turns, segments, passed, last, e, htrail, hdefect⟩
  · rintro ⟨turns, segments, passed, last, e, htrail, hdefect⟩
    have hmeets : g.Meets (g.Defective config.maxDepth) [] r turns :=
      ⟨segments, passed, last, htrail, by simp [Defective, hdefect]⟩
    cases hresult : (g.schema docs config r).result with
    | ok schema => exact absurd hmeets (hfinds.clear schema hresult turns)
    | error other => exact ⟨other, rfl⟩

/-- A visit leads to a child inside itself and, at a later field, to a type known by name only. -/
example : (family.schema .empty {} 4).result = .error (.recursiveType "Child") := by cbv

end Graph

end TypeSchema
