import TypeSchema.Generation
import TypeSchema.Proofs.Attempt
import TypeSchema.Proofs.Descriptor.Coherence

/-!
# One step of the generator

What the generator does at one descriptor, given what it does at the parts. Everything that is proved
of whole runs is proved from these lemmas, by induction on the levels.

* `Made` lists the ways in which a step succeeds, one for each form of a descriptor, and
  `made_of_schemaOfNode` says that there are no others.
* `Made.outside` and `Made.part`: where a step succeeds, an object is not inside itself and all parts
  succeed.
* `fault?` lists, in order, what a step fails for before it comes to a part (`schemaOfNode_of_fault?`);
  without a fault it fails with the first part that fails (`exists_part_of_schemaOfNode`).
* `schemaOfNode_eq_error`: at a well-formed descriptor a step fails because a part fails, or because
  the descriptor is an object inside itself.
-/

namespace TypeSchema.Generator

open Attempt

variable {Ref : Type} {g : Graph Ref} {docs : DocRegistry}

/-- The identities of the objects that the parts of a descriptor lie inside. -/
def around (path : List String) (node : Node Ref) : List String :=
  if node.kind = .object then node.identity :: path else path

/-- Inside an object, that object is around as well. -/
@[simp] theorem around_of_object {path : List String} {node : Node Ref} (h : node.kind = .object) :
    around path node = node.identity :: path := if_pos h

/-- Inside anything else, nothing more is around. -/
@[simp]
theorem around_of_ne_object {path : List String} {node : Node Ref} (h : node.kind ≠ .object) :
    around path node = path := if_neg h

/-! ### The fields of an object -/

/-- What the fields of an object come to, given the schema of each part. -/
def fieldsOf (g : Graph Ref) (docs : DocRegistry) (identity : String) (shape : Ref → Schema)
    (elements : List (Element Ref)) (fields : Fields) : Fields :=
  elements.foldl (fun fields element =>
    addField (docs.field? identity element.name) element (g.node element.target).nullable
      (shape element.target) fields) fields

/-- A function that has the schemas an attempt succeeds with. -/
theorem exists_shape (schemaOf : Ref → Attempt SchemaError Schema) :
    ∃ shape : Ref → Schema, ∀ r schema, (schemaOf r).result = .ok schema → shape r = schema := by
  refine ⟨fun r => (schemaOf r).result.toOption.getD default, fun r schema h => ?_⟩
  show (schemaOf r).result.toOption.getD default = schema
  rw [h]
  rfl

/-- Fields are read to the end if each part has its schema, and then they come to what these give. -/
theorem readFields_eq_ok {schemaOf : Ref → Attempt SchemaError Schema} {shape : Ref → Schema}
    (hshape : ∀ r schema, (schemaOf r).result = .ok schema → shape r = schema)
    {identity : String} {elements : List (Element Ref)} {fields out : Fields}
    (h : (readFields g docs schemaOf identity elements fields).result = .ok out) :
    (∀ element ∈ elements, (schemaOf element.target).result = .ok (shape element.target)) ∧
      out = fieldsOf g docs identity shape elements fields := by
  induction elements generalizing fields with
  | nil =>
    cases h
    exact ⟨fun _ hmem => absurd hmem List.not_mem_nil, rfl⟩
  | cons element rest ih =>
    rw [readFields, result_bind] at h
    cases hfirst : (schemaOf element.target).result with
    | error e =>
      rw [hfirst] at h
      cases h
    | ok schema =>
      rw [hfirst] at h
      obtain rfl := hshape _ _ hfirst
      obtain ⟨hrest, hout⟩ := ih h
      refine ⟨fun other hmem => ?_, hout⟩
      rcases List.mem_cons.1 hmem with rfl | hmem
      · exact hfirst
      · exact hrest other hmem

/-- The fields of an object fail with the error of the first of them that fails. -/
theorem readFields_eq_error {schemaOf : Ref → Attempt SchemaError Schema} {identity : String}
    {elements : List (Element Ref)} {fields : Fields} {e : SchemaError}
    (h : (readFields g docs schemaOf identity elements fields).result = .error e) :
    ∃ (position : Nat) (element : Element Ref), elements[position]? = some element ∧
      (schemaOf element.target).result = .error e ∧
        ∀ earlier < position, ∀ other, elements[earlier]? = some other →
          ∃ schema, (schemaOf other.target).result = .ok schema := by
  induction elements generalizing fields with
  | nil => cases h
  | cons element rest ih =>
    rw [readFields, result_bind_eq_error_iff] at h
    rcases h with herror | ⟨schema, hok, hrest⟩
    · exact ⟨0, element, rfl, herror, by simp⟩
    · obtain ⟨position, other, hother, herror, hbefore⟩ := ih hrest
      refine ⟨position + 1, other, hother, herror, fun earlier hearlier first hfirst => ?_⟩
      cases earlier with
      | zero =>
        cases hfirst
        exact ⟨schema, hok⟩
      | succ earlier => exact hbefore earlier (Nat.lt_of_succ_lt_succ hearlier) first hfirst

/-! ### The part of a container -/

/-- Of a container with one part, the part is what can fail. -/
theorem container_eq_error {schemaOf : Ref → Attempt SchemaError Schema} {part : Ref}
    {wrap : Schema → Schema} {e : SchemaError}
    (h : Attempt.result (do return wrap (← schemaOf (← ofExcept (.ok part)))) = .error e) :
    (schemaOf part).result = .error e := by
  rw [result_bind_of_ok (result_ofExcept _), result_bind_eq_error_iff] at h
  rcases h with herror | ⟨schema, -, hwrap⟩
  · exact herror
  · cases hwrap

/-- A container without the part fails. -/
theorem container_of_error {schemaOf : Ref → Attempt SchemaError Schema}
    {part? : Except SchemaError Ref} {wrap : Schema → Schema} {e : SchemaError}
    (h : part? = .error e) :
    Attempt.result (do return wrap (← schemaOf (← ofExcept part?))) = .error e := by
  rw [result_bind, result_ofExcept, h]

/-- A container that succeeds has the part that is asked for, and wraps what the part succeeds
with. -/
theorem container_eq_ok {schemaOf : Ref → Attempt SchemaError Schema}
    {part? : Except SchemaError Ref} {wrap : Schema → Schema} {schema : Schema}
    (h : Attempt.result (do return wrap (← schemaOf (← ofExcept part?))) = .ok schema) :
    ∃ part inner, part? = .ok part ∧ (schemaOf part).result = .ok inner ∧ schema = wrap inner := by
  rw [result_bind, result_ofExcept] at h
  cases hpart : part? with
  | error e =>
    rw [hpart] at h
    cases h
  | ok part =>
    rw [hpart] at h
    simp only [result_bind] at h
    cases hinner : (schemaOf part).result with
    | error e =>
      rw [hinner] at h
      cases h
    | ok inner =>
      rw [hinner] at h
      cases h
      exact ⟨part, inner, rfl, hinner, rfl⟩

/-! ### A step that succeeds -/

/-- The ways in which a step succeeds, with what is asked of the parts. -/
inductive Made (g : Graph Ref) (docs : DocRegistry)
    (schemaOf : List String → Ref → Attempt SchemaError Schema) (path : List String) (r : Ref) :
    Schema → Prop where
  /-- A plain value. -/
  | plain {type : Primitive} (hkind : (g.node r).kind = .primitive type) :
      Made g docs schemaOf path r type.schema
  /-- A list or set, from its item. -/
  | items {item : Element Ref} {part : Schema}
      (hkind : (g.node r).kind = .list ∨ (g.node r).kind = .set)
      (helements : (g.node r).elements = [item])
      (hpart : (schemaOf path item.target).result = .ok part) :
      Made g docs schemaOf path r (.arrayOf part)
  /-- A map, from its value. -/
  | values {key value : Element Ref} {part : Schema} (hkind : (g.node r).kind = .map)
      (helements : (g.node r).elements = [key, value])
      (hpart : (schemaOf path value.target).result = .ok part) :
      Made g docs schemaOf path r (.mapOf part)
  /-- An enumeration. -/
  | names {values : List String} (hkind : (g.node r).kind = .enumeration values) :
      Made g docs schemaOf path r (.stringEnum values)
  /-- A value of open shape. -/
  | openShape (hkind : (g.node r).kind = .polymorphic) : Made g docs schemaOf path r .anyObject
  /-- An object, from its fields. -/
  | fields {shape : Ref → Schema} (hkind : (g.node r).kind = .object)
      (houtside : g.identity r ∉ path)
      (hparts : ∀ element ∈ (g.node r).elements,
        (schemaOf (g.identity r :: path) element.target).result = .ok (shape element.target)) :
      Made g docs schemaOf path r
        (.object (docs.description? (g.identity r))
          (some (fieldsOf g docs (g.identity r) shape (g.node r).elements {}).properties)
          (fieldsOf g docs (g.identity r) shape (g.node r).elements {}).required none)

section

variable {schemaOf : List String → Ref → Attempt SchemaError Schema} {path : List String} {r : Ref}

/-- **A step that succeeds does so in one of these ways.** -/
theorem made_of_schemaOfNode {schema : Schema}
    (h : (schemaOfNode g docs schemaOf path (g.node r)).result = .ok schema) :
    Made g docs schemaOf path r schema := by
  unfold schemaOfNode at h
  cases hk : (g.node r).kind <;> simp only [hk] at h
  case primitive type =>
    cases h
    exact .plain hk
  case enumeration values =>
    cases h
    exact .names hk
  case polymorphic =>
    cases h
    exact .openShape hk
  case contextual => cases h
  case list | set =>
    obtain ⟨part, inner, hpart, hinner, rfl⟩ := container_eq_ok h
    unfold item? at hpart
    split at hpart
    · next item hitem =>
      cases hpart
      exact .items (by simp [hk]) hitem hinner
    · cases hpart
  case map =>
    obtain ⟨part, inner, hpart, hinner, rfl⟩ := container_eq_ok h
    unfold value? at hpart
    split at hpart
    · next key value hpair =>
      cases hpart
      exact .values hk hpair hinner
    · cases hpart
  case object =>
    split at h
    · cases h
    split at h
    · cases h
    next houtside =>
      obtain ⟨shape, hshape⟩ := exists_shape (schemaOf (g.identity r :: path))
      rw [result_bind] at h
      split at h
      · next fields hfields =>
        obtain ⟨hparts, rfl⟩ := readFields_eq_ok hshape hfields
        cases h
        exact .fields hk houtside hparts
      · cases h

/-- **Where a step succeeds**, an object is not inside itself. -/
theorem Made.outside {schema : Schema} (h : Made g docs schemaOf path r schema)
    (hobject : (g.node r).kind = .object) : g.identity r ∉ path := by
  cases h with
  | fields _ houtside _ => exact houtside
  | items hkind => rcases hkind with hkind | hkind <;> simp [hkind] at hobject
  | plain hkind | values hkind | names hkind | openShape hkind => simp [hkind] at hobject

/-- **Where a step succeeds**, each part succeeds. -/
theorem Made.part {schema : Schema} (h : Made g docs schemaOf path r schema) {s : Ref}
    (hs : s ∈ g.parts r) :
    ∃ part, (schemaOf (around path (g.node r)) s).result = .ok part := by
  cases h with
  | plain hkind | names hkind | openShape hkind => simp [Graph.parts, hkind] at hs
  | @items item part hkind helements hpart =>
    rw [Graph.parts_of_item hkind helements] at hs
    rw [around_of_ne_object (by rcases hkind with hkind | hkind <;> simp [hkind]),
      List.mem_singleton.1 hs]
    exact ⟨part, hpart⟩
  | @values key value part hkind helements hpart =>
    rw [Graph.parts_of_value hkind helements] at hs
    rw [around_of_ne_object (by simp [hkind]), List.mem_singleton.1 hs]
    exact ⟨part, hpart⟩
  | @fields shape hkind houtside hparts =>
    rw [Graph.parts_of_object hkind] at hs
    obtain ⟨element, hmem, rfl⟩ := List.mem_map.1 hs
    rw [around_of_object hkind]
    exact ⟨_, hparts element hmem⟩

/-! ### A step that fails -/

/-- The fault of a container that does not have the expected number of elements. -/
def misfit? (expected : Nat) (node : Node Ref) : Option SchemaError :=
  if node.elements.length = expected then none
  else some (.malformed node.identity expected node.elements.length)

/-- The fault for which a step fails before it comes to a part. -/
def fault? (path : List String) (node : Node Ref) : Option SchemaError :=
  match node.kind with
  | .list | .set => misfit? 1 node
  | .map => misfit? 2 node
  | .object =>
    if node.eligible = false then some (.notEligible node.identity)
    else if node.identity ∈ path then some (.recursiveType node.identity)
    else none
  | .contextual => some (.unsupportedKind node.identity)
  | .primitive _ | .enumeration _ | .polymorphic => none

/-- A list that does not fit has no item. -/
theorem item?_of_misfit? {node : Node Ref} {e : SchemaError} (h : misfit? 1 node = some e) :
    item? node = .error e := by
  unfold misfit? at h
  unfold item?
  split at h
  · cases h
  next hlength =>
    cases h
    split
    · next hitem => simp [hitem] at hlength
    · rfl

/-- A map that does not fit has no value. -/
theorem value?_of_misfit? {node : Node Ref} {e : SchemaError} (h : misfit? 2 node = some e) :
    value? node = .error e := by
  unfold misfit? at h
  unfold value?
  split at h
  · cases h
  next hlength =>
    cases h
    split
    · next hpair => simp [hpair] at hlength
    · rfl

/-- What fits has as many elements as it should. -/
theorem length_of_misfit?_eq_none {expected : Nat} {node : Node Ref}
    (h : misfit? expected node = none) : node.elements.length = expected := by
  by_contra hlength
  rw [misfit?, if_neg hlength] at h
  cases h

/-- **A fault** makes the step fail. -/
theorem schemaOfNode_of_fault? {e : SchemaError} (h : fault? path (g.node r) = some e) :
    (schemaOfNode g docs schemaOf path (g.node r)).result = .error e := by
  unfold fault? at h
  unfold schemaOfNode
  cases hk : (g.node r).kind <;> simp only [hk] at h
  case primitive | enumeration | polymorphic => cases h
  case contextual =>
    cases h
    rfl
  case list | set => exact container_of_error (item?_of_misfit? h)
  case map => exact container_of_error (value?_of_misfit? h)
  case object =>
    split at h
    · next heligible =>
      cases h
      simp only [heligible]
      rfl
    next heligible =>
      split at h
      · next hinside =>
        cases h
        simp only [heligible]
        exact congrArg result (if_pos hinside)
      · cases h

/-- **Without a fault** the step fails with the error of the first part that fails. -/
theorem exists_part_of_schemaOfNode {e : SchemaError} (hnone : fault? path (g.node r) = none)
    (h : (schemaOfNode g docs schemaOf path (g.node r)).result = .error e) :
    ∃ (position : Nat) (s : Ref), (g.parts r)[position]? = some s ∧
      (schemaOf (around path (g.node r)) s).result = .error e ∧
        ∀ earlier < position, ∀ t, (g.parts r)[earlier]? = some t →
          ∃ schema, (schemaOf (around path (g.node r)) t).result = .ok schema := by
  unfold fault? at hnone
  unfold schemaOfNode at h
  cases hk : (g.node r).kind <;> simp only [hk] at h hnone
  case primitive | enumeration | polymorphic => cases h
  case contextual => cases hnone
  case list | set =>
    obtain ⟨item, hitem⟩ := List.length_eq_one_iff.1 (length_of_misfit?_eq_none hnone)
    rw [item?, hitem] at h
    rw [Graph.parts_of_item (by simp [hk]) hitem, around_of_ne_object (by simp [hk])]
    exact ⟨0, item.target, rfl, container_eq_error h, by simp⟩
  case map =>
    obtain ⟨key, value, hpair⟩ := List.length_eq_two.1 (length_of_misfit?_eq_none hnone)
    rw [value?, hpair] at h
    rw [Graph.parts_of_value hk hpair, around_of_ne_object (by simp [hk])]
    exact ⟨0, value.target, rfl, container_eq_error h, by simp⟩
  case object =>
    split at hnone
    · cases hnone
    next heligible =>
      split at hnone
      · cases hnone
      next houtside =>
        rw [if_neg (by simpa using heligible), if_neg houtside, result_bind_eq_error_iff] at h
        rw [Graph.parts_of_object hk, around_of_object hk]
        rcases h with hfields | ⟨fields, -, hwrap⟩
        · obtain ⟨position, element, helement, herror, hbefore⟩ := readFields_eq_error hfields
          refine ⟨position, element.target, ?_, herror, fun earlier hearlier t ht => ?_⟩
          · rw [Graph.children, List.getElem?_map, helement]
            rfl
          · rw [Graph.children, List.getElem?_map, Option.map_eq_some_iff] at ht
            obtain ⟨other, hother, rfl⟩ := ht
            exact hbefore earlier hearlier other hother
        · cases hwrap

/-- A well-formed type has no fault but to be an object inside itself. -/
theorem fault?_of_wellFormed (hwf : g.WellFormed r) : fault? path (g.node r) =
    if (g.node r).kind = .object ∧ g.identity r ∈ path then some (.recursiveType (g.identity r))
    else none := by
  unfold Graph.WellFormed at hwf
  unfold fault?
  cases hk : (g.node r).kind <;> simp only [hk] at hwf ⊢
  case primitive | enumeration | polymorphic => rfl
  case list | set => simp [misfit?, hwf]
  case map =>
    split at hwf
    · next key value hpair => simp [misfit?, hpair]
    · cases hwf
  case object => simp [hwf, Graph.identity]

/-- **At a well-formed type**, a step fails because the type is an object inside itself, or because
it is not and a part fails. -/
theorem schemaOfNode_eq_error {e : SchemaError} (hwf : g.WellFormed r)
    (h : (schemaOfNode g docs schemaOf path (g.node r)).result = .error e) :
    ((g.node r).kind = .object ∧ g.identity r ∈ path ∧ e = .recursiveType (g.identity r)) ∨
      ((g.node r).kind = .object → g.identity r ∉ path) ∧
        ∃ s ∈ g.parts r, (schemaOf (around path (g.node r)) s).result = .error e := by
  have hfault : fault? path (g.node r) = _ := fault?_of_wellFormed hwf
  split at hfault
  · next hinside =>
    rw [schemaOfNode_of_fault? hfault] at h
    cases h
    exact .inl ⟨hinside.1, hinside.2, rfl⟩
  · next houtside =>
    obtain ⟨position, s, hs, herror, -⟩ := exists_part_of_schemaOfNode hfault h
    exact .inr ⟨fun hobject hmem => houtside ⟨hobject, hmem⟩, s, List.mem_of_getElem? hs, herror⟩

end

/-! ### A step of a run -/

/-- A run that succeeds has a level left and begins with a step that succeeds. -/
theorem made_of_schemaAt {maxDepth levels : Nat} {path : List String} {r : Ref} {schema : Schema}
    (h : (schemaAt g docs maxDepth levels path r).result = .ok schema) :
    ∃ fewer, levels = fewer + 1 ∧ Made g docs (schemaAt g docs maxDepth fewer) path r schema := by
  cases levels with
  | zero => cases h
  | succ fewer =>
    rw [schemaAt, result_bind_of_ok (result_emit _)] at h
    exact ⟨fewer, rfl, made_of_schemaOfNode h⟩

/-- A run over a well-formed type that fails has no level left, or begins with a step that fails. -/
theorem schemaAt_eq_error {maxDepth levels : Nat} {path : List String} {r : Ref} {e : SchemaError}
    (hwf : g.WellFormed r) (h : (schemaAt g docs maxDepth levels path r).result = .error e) :
    (levels = 0 ∧ e = .depthExceeded (g.identity r) maxDepth) ∨
      ((g.node r).kind = .object ∧ g.identity r ∈ path ∧ e = .recursiveType (g.identity r)) ∨
      ((g.node r).kind = .object → g.identity r ∉ path) ∧ ∃ fewer, levels = fewer + 1 ∧
        ∃ s ∈ g.parts r,
          (schemaAt g docs maxDepth fewer (around path (g.node r)) s).result = .error e := by
  cases levels with
  | zero =>
    cases h
    exact .inl ⟨rfl, rfl⟩
  | succ fewer =>
    rw [schemaAt, result_bind_of_ok (result_emit _)] at h
    rcases schemaOfNode_eq_error hwf h with hinside | ⟨houtside, hpart⟩
    · exact .inr (.inl hinside)
    · exact .inr (.inr ⟨houtside, fewer, rfl, hpart⟩)

end TypeSchema.Generator
