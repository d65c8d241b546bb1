import TypeSchema.Proofs.Descriptor.Cycle
import TypeSchema.Proofs.Generation.Image
import TypeSchema.Proofs.Generation.Safety

/-!
# Objects inside themselves

The generator keeps the identities of the objects it is inside of, and refuses an object it meets
there. Does it refuse the right types, and does it do so before it comes to its limit?

* `exists_descent_of_depthExceeded`: where the limit is passed, the generator has gone a way of that
  length on which no object comes twice. By `Walk.length_le` there is none of more than twice as many
  steps as there are identities.
* `exists_object_of_recursiveType`: a refused object is one that was met inside another one of its
  identity.
* `not_contains_self_of_ok`: where generation succeeds, no object leads to itself.
* `schema_verdict` puts them together.
-/

namespace TypeSchema

namespace Generator

variable {Ref : Type} {g : Graph Ref} {docs : DocRegistry} {maxDepth : Nat}

/-- What was around a type is around its parts. -/
theorem subset_around (path : List String) (node : Node Ref) : path ⊆ around path node := by
  unfold around
  split
  · exact List.subset_cons_self _ _
  · exact List.Subset.refl _

/-! ### The way to the limit -/

/-- The types that the generator is inside of, the outermost first, when it has come down from a type
that lies inside the objects of the path. -/
inductive Descent (g : Graph Ref) : List String → Ref → List Ref → Prop where
  /-- It has not entered the type. -/
  | stop {path : List String} {r : Ref} : Descent g path r []
  /-- It has entered the type, as this is not an object inside itself, and come down from a part. -/
  | enter {path : List String} {r s : Ref} {rest : List Ref}
      (houtside : (g.node r).kind = .object → g.identity r ∉ path) (hs : s ∈ g.parts r)
      (hrest : Descent g (around path (g.node r)) s rest) : Descent g path r (r :: rest)

/-- On the way down no object is met that was around before. -/
theorem Descent.outside {path : List String} {r : Ref} {walk : List Ref}
    (h : Descent g path r walk) :
    ∀ a ∈ walk, (g.node a).kind = .object → g.identity a ∉ path := by
  induction h with
  | stop => exact fun a ha => absurd ha List.not_mem_nil
  | @enter path r s rest houtside _ _ ih =>
    intro a ha hobject hpath
    rcases List.mem_cons.1 ha with rfl | ha
    · exact houtside hobject hpath
    · exact ih a ha hobject (subset_around path (g.node r) hpath)

/-- **The generator goes down a way without a repeated object.** -/
theorem Descent.walk {path : List String} {r : Ref} {walk : List Ref} (h : Descent g path r walk) :
    g.Walk r walk := by
  induction h with
  | stop => exact ⟨.nil, by simp, by simp, .nil⟩
  | @enter path r s rest houtside hs hrest ih =>
    refine ⟨?_, fun a ha => ?_, fun a ha => ?_, List.pairwise_cons.2 ⟨fun a ha => ?_, ih.objects⟩⟩
    · cases hrest with
      | stop => exact .singleton r
      | enter _ _ _ => exact List.isChain_cons_cons.2 ⟨hs, ih.chain⟩
    · rcases List.mem_cons.1 ha with rfl | ha
      · exact Graph.Reaches.refl a
      · exact Graph.Reaches.head hs (ih.below a ha)
    · rcases List.mem_cons.1 ha with rfl | ha
      · exact Graph.not_plain_of_mem_parts hs
      · exact ih.compound a ha
    · intro hr hobject hid
      have hinside := hrest.outside a ha hobject
      rw [around_of_object hr, ← hid] at hinside
      exact hinside List.mem_cons_self

/-- Where the limit is passed, the generator has come down through all levels. -/
theorem exists_descent_of_depthExceeded {levels limit : Nat} {path : List String} {r : Ref}
    {id : String} (hsound : g.Sound r)
    (h : (schemaAt g docs maxDepth levels path r).result = .error (.depthExceeded id limit)) :
    ∃ walk, Descent g path r walk ∧ walk.length = levels := by
  induction levels generalizing path r with
  | zero => exact ⟨[], .stop, rfl⟩
  | succ levels ih =>
    rcases schemaAt_eq_error hsound.wellFormed h with
      ⟨hnone, -⟩ | ⟨-, -, hrec⟩ | ⟨houtside, fewer, hfewer, s, hs, herror⟩
    · cases hnone
    · cases hrec
    · cases hfewer
      obtain ⟨walk, hwalk, hlength⟩ := ih (hsound.of_mem_parts hs) herror
      exact ⟨r :: walk, .enter houtside hs hwalk, congrArg Nat.succ hlength⟩

/-! ### An object that is refused -/

/-- A refused object lies inside the path, or inside an object of its identity that was met on the
way. -/
theorem exists_object_of_recursiveType {levels : Nat} {path : List String} {r : Ref} {id : String}
    (hsound : g.Sound r)
    (h : (schemaAt g docs maxDepth levels path r).result = .error (.recursiveType id)) :
    ∃ o, g.Reaches r o ∧ (g.node o).kind = .object ∧ g.identity o = id ∧
      (id ∈ path ∨ ∃ p, g.Reaches r p ∧ (g.node p).kind = .object ∧ g.identity p = id ∧
        g.Contains p o) := by
  induction levels generalizing path r with
  | zero => cases h
  | succ levels ih =>
    rcases schemaAt_eq_error hsound.wellFormed h with
      ⟨hnone, -⟩ | ⟨hobject, hinside, hrec⟩ | ⟨-, fewer, hfewer, s, hs, herror⟩
    · cases hnone
    · cases hrec
      exact ⟨r, Graph.Reaches.refl r, hobject, rfl, .inl hinside⟩
    · cases hfewer
      obtain ⟨o, ho, hobject, hid, hwhere⟩ := ih (hsound.of_mem_parts hs) herror
      refine ⟨o, Graph.Reaches.head hs ho, hobject, hid, ?_⟩
      rcases hwhere with hinside | ⟨p, hp, hpobject, hpid, hpo⟩
      · by_cases hr : (g.node r).kind = .object
        · rw [around_of_object hr] at hinside
          rcases List.mem_cons.1 hinside with hself | hinside
          · exact .inr ⟨r, Graph.Reaches.refl r, hr, hself.symm, .head' hs ho⟩
          · exact .inl hinside
        · rw [around_of_ne_object hr] at hinside
          exact .inl hinside
      · exact .inr ⟨p, Graph.Reaches.head hs hp, hpobject, hpid, hpo⟩

/-! ### Where generation succeeds -/

/-- Where a run succeeds, it succeeds at everything below, inside at least the same objects. -/
theorem exists_ok_of_reaches {levels : Nat} {path : List String} {r s : Ref} {schema : Schema}
    (h : (schemaAt g docs maxDepth levels path r).result = .ok schema) (hrs : g.Reaches r s) :
    ∃ fewer inside part, path ⊆ inside ∧
      (schemaAt g docs maxDepth fewer inside s).result = .ok part := by
  induction hrs using Relation.ReflTransGen.head_induction_on generalizing levels path schema with
  | refl => exact ⟨levels, path, schema, List.Subset.refl _, h⟩
  | head ht _ ih =>
    obtain ⟨fewer, -, hmade⟩ := made_of_schemaAt h
    obtain ⟨part, hpart⟩ := hmade.part ht
    obtain ⟨last, inside, image, hsubset, hok⟩ := ih hpart
    exact ⟨last, inside, image, List.Subset.trans (subset_around path _) hsubset, hok⟩

/-- **Where a run succeeds, no object leads to itself.** -/
theorem not_contains_self_of_ok {levels : Nat} {path : List String} {r : Ref} {schema : Schema}
    (h : (schemaAt g docs maxDepth levels path r).result = .ok schema)
    (hobject : (g.node r).kind = .object) : ¬ g.Contains r r := by
  intro hself
  obtain ⟨s, hs, hsr⟩ := Relation.TransGen.head'_iff.1 hself
  obtain ⟨fewer, -, hmade⟩ := made_of_schemaAt h
  obtain ⟨part, hpart⟩ := hmade.part hs
  obtain ⟨last, inside, image, hsubset, hok⟩ := exists_ok_of_reaches hpart hsr
  obtain ⟨_, -, hagain⟩ := made_of_schemaAt hok
  rw [around_of_object hobject] at hsubset
  exact hagain.outside hobject (hsubset List.mem_cons_self)

end Generator

namespace Graph

open Generator Validator

variable {Ref : Type} {g : Graph Ref} {docs : DocRegistry} {config : GeneratorConfig} {r : Ref}

/-- A limit of twice the number of identities is never passed. -/
theorem schema_ne_depthExceeded (hcoherent : g.Coherent [r]) (hsound : g.Sound r)
    (hgrounded : g.Grounded r) (hdepth : 2 * (g.identitiesBelow r).ncard ≤ config.maxDepth)
    (id : String) (limit : Nat) :
    (g.schema docs config r).result ≠ .error (.depthExceeded id limit) := by
  intro h
  obtain ⟨walk, hwalk, hlength⟩ := exists_descent_of_depthExceeded hsound h
  have hbound : walk.length ≤ 2 * (g.identitiesBelow r).ncard :=
    hwalk.walk.length_le hcoherent hgrounded
  omega

/-- An object that is refused is one on a cycle. -/
theorem exists_contains_self_of_recursiveType (hcoherent : g.Coherent [r]) (hsound : g.Sound r)
    {id : String} (h : (g.schema docs config r).result = .error (.recursiveType id)) :
    ∃ o, g.Reaches r o ∧ (g.node o).kind = .object ∧ g.Contains o o ∧ g.identity o = id := by
  obtain ⟨o, ho, hobject, hid, hinside⟩ := exists_object_of_recursiveType hsound h
  obtain ⟨p, hp, hpobject, hpid, hpo⟩ := hinside.resolve_left List.not_mem_nil
  have halike : g.Alike [r] p o := ⟨⟨r, List.mem_singleton_self r, hp⟩,
    ⟨r, List.mem_singleton_self r, ho⟩, not_plain_of_object hpobject,
    not_plain_of_object hobject, hpid.trans hid.symm⟩
  obtain ⟨c, hc, hloop⟩ := halike.exists_contains_self hcoherent hpo
  obtain ⟨root, hroot, hreaches⟩ := hc.right
  rw [List.mem_singleton.1 hroot] at hreaches
  exact ⟨c, hreaches, hc.kind_eq hcoherent ▸ hpobject, hloop, hc.identity.symm.trans hpid⟩

/-- **What comes of an accepted type**, if every cycle goes through an object and the limit is at
least twice the number of identities below the type. The limit is not passed. The type has a schema
if and only if no object below it leads to itself, and if it has none, an object that does is named.
So a type that is used several times, but not inside itself, does no harm. -/
theorem schema_verdict (docs : DocRegistry) {config : GeneratorConfig} (hcoherent : g.Coherent [r])
    (haccepted : (g.validate r).result = .ok ()) (hgrounded : g.Grounded r)
    (hdepth : 2 * (g.identitiesBelow r).ncard ≤ config.maxDepth) :
    (∀ id limit, (g.schema docs config r).result ≠ .error (.depthExceeded id limit)) ∧
      ((∃ schema, (g.schema docs config r).result = .ok schema) ↔
        ∀ o, g.Reaches r o → (g.node o).kind = .object → ¬ g.Contains o o) ∧
      ((¬ ∃ schema, (g.schema docs config r).result = .ok schema) →
        ∃ o, g.Reaches r o ∧ (g.node o).kind = .object ∧ g.Contains o o ∧
          (g.schema docs config r).result = .error (.recursiveType (g.identity o))) := by
  have hsound : g.Sound r := supported_new.sound_of_accepted hcoherent.faithful
    (reachedFrom_of_mem (List.mem_singleton_self r)) haccepted
  have hlimit : ∀ id limit,
      (g.schema docs config r).result ≠ .error (.depthExceeded id limit) :=
    schema_ne_depthExceeded hcoherent hsound hgrounded hdepth
  have hrefused : (¬ ∃ schema, (g.schema docs config r).result = .ok schema) →
      ∃ o, g.Reaches r o ∧ (g.node o).kind = .object ∧ g.Contains o o ∧
        (g.schema docs config r).result = .error (.recursiveType (g.identity o)) := by
    intro hnone
    cases hresult : (g.schema docs config r).result with
    | ok schema => exact absurd ⟨schema, hresult⟩ hnone
    | error e =>
      rcases schema_eq_error_of_sound hsound hresult with ⟨id, rfl⟩ | ⟨id, rfl⟩
      · obtain ⟨o, ho, hobject, hloop, rfl⟩ :=
          exists_contains_self_of_recursiveType hcoherent hsound hresult
        exact ⟨o, ho, hobject, hloop, rfl⟩
      · exact absurd hresult (hlimit _ _)
  refine ⟨hlimit, ⟨?_, fun hacyclic => ?_⟩, hrefused⟩
  · rintro ⟨schema, hok⟩ o ho hobject
    obtain ⟨_, _, _, -, hpart⟩ := exists_ok_of_reaches hok ho
    exact not_contains_self_of_ok hpart hobject
  · by_contra hnone
    obtain ⟨o, ho, hobject, hloop, -⟩ := hrefused hnone
    exact hacyclic o ho hobject hloop

/-- In the family with a cycle, a parent is accepted and has no schema, and an object on the cycle is
named, with no more levels than twice the number of references. In an order, the type of the customer
and the recipient comes twice, and as there is a schema, nothing leads to itself. -/
theorem schema_verdict_family_order :
    (∃ o, family.Reaches 0 o ∧ (family.node o).kind = .object ∧ family.Contains o o ∧
        (family.schema .empty { maxDepth := 12 } 0).result =
          .error (.recursiveType (family.identity o))) ∧
      ∀ o, order.Reaches 0 o → (order.node o).kind = .object → ¬ order.Contains o o := by
  have hfamily : family.Grounded 0 := grounded_of_rank Fin.val (by decide) 0
  have horder : order.Grounded 0 := grounded_of_rank Fin.val (by decide) 0
  have hcoherent : order.Coherent [0] := coherent_of_forall (by decide) [0]
  have hlevels : 2 * (family.identitiesBelow 0).ncard ≤
      ({ maxDepth := 12 } : GeneratorConfig).maxDepth :=
    Nat.mul_le_mul_left 2 (ncard_identitiesBelow_le 0)
  have hlevels' : 2 * (order.identitiesBelow 0).ncard ≤
      ({ maxDepth := 10 } : GeneratorConfig).maxDepth :=
    Nat.mul_le_mul_left 2 (ncard_identitiesBelow_le 0)
  obtain ⟨-, -, hnamed⟩ :=
    schema_verdict .empty (coherent_family [0]) (by cbv) hfamily hlevels
  obtain ⟨-, hacyclic, -⟩ := schema_verdict orderDocs hcoherent (by cbv) horder hlevels'
  have hrefused : (family.schema .empty { maxDepth := 12 } 0).result =
      .error (.recursiveType "Parent") := by cbv
  have hschema : (order.schema orderDocs { maxDepth := 10 } 0).result = .ok orderImage := by cbv
  refine ⟨hnamed ?_, hacyclic.1 ⟨orderImage, hschema⟩⟩
  rintro ⟨schema, hok⟩
  rw [hrefused] at hok
  cases hok

end Graph

end TypeSchema
