import TypeSchema.Proofs.Descriptor.Coherence

/-!
# Cycles

In a coherent family, types with one identity go the same ways down: what can be done from the one
can be done from the other. A way from a type to its like can therefore be gone again and again, and
as the graph is finite, it comes back to where it was: there is a cycle (`Alike.exists_loop`).

The generator follows such ways until it meets an object inside itself. How long may that take? Only
objects are told apart on the way, and containers may come again. But a container leads to one part
only, and so to one next object, if there is no cycle of containers. Hence an identity that comes
twice has led to an object in between, and if it came a third time, that object would come again.

* `Walk.count_le_two`: on a way on which no object comes twice, no identity comes three times.
* `Walk.length_le`: such a way has at most two steps for each identity below its start.
-/

namespace TypeSchema.Graph

variable {Ref : Type} (g : Graph Ref)

/-- Does the first type lead to the second in one step or more? -/
def Contains : Ref → Ref → Prop := Relation.TransGen fun r s => s ∈ g.parts r

/-- Is the second type a part of the first, which is no object? -/
def Wraps (r s : Ref) : Prop := (g.node r).kind ≠ .object ∧ s ∈ g.parts r

/-- Does every cycle below the type go through an object? -/
def Grounded (r : Ref) : Prop := ∀ s, g.Reaches r s → ¬ Relation.TransGen g.Wraps s s

/-- The identities of the types below a type. -/
def identitiesBelow (r : Ref) : Set String := {id | ∃ s, g.Reaches r s ∧ g.identity s = id}

variable {g}

/-- A type with parts is not plain. -/
theorem not_plain_of_mem_parts {r s : Ref} (h : s ∈ g.parts r) : ¬ g.Plain r := by
  intro hplain
  rw [parts_eq_nil_of_plain hplain] at h
  exact List.not_mem_nil h

/-- An object is not plain. -/
theorem not_plain_of_object {r : Ref} (h : (g.node r).kind = .object) : ¬ g.Plain r := by
  simp [Plain, h, Kind.isPrimitive]

/-- What is no object leads to one type at most. -/
theorem parts_eq_singleton {r s : Ref} (h : g.Wraps r s) : g.parts r = [s] := by
  obtain ⟨hkind, hs⟩ := h
  have hlength : (g.parts r).length ≤ 1 := by
    unfold parts
    cases hk : (g.node r).kind with
    | object => exact absurd hk hkind
    | list | set =>
      simp only
      split <;> simp_all [children]
    | map =>
      simp only
      split <;> simp_all [children]
    | primitive | enumeration | polymorphic | contextual => exact Nat.zero_le 1
  obtain ⟨t, ht⟩ := List.length_eq_one_iff.1 (Nat.le_antisymm hlength (List.length_pos_of_mem hs))
  rw [ht] at hs ⊢
  rw [List.mem_singleton.1 hs]

/-! ### Types that are alike -/

/-- Two types below the roots with one identity, neither of them a plain value. -/
structure Alike (g : Graph Ref) (roots : List Ref) (a b : Ref) : Prop where
  /-- The one is below the roots. -/
  left : g.ReachedFrom roots a
  /-- The other one is, too. -/
  right : g.ReachedFrom roots b
  /-- The one is no plain value. -/
  left_open : ¬ g.Plain a
  /-- The other one is none either. -/
  right_open : ¬ g.Plain b
  /-- They have one identity. -/
  identity : g.identity a = g.identity b

section

variable {roots : List Ref} {a b c : Ref}

/-- Types that are like a third one are alike. -/
@[grind →]
theorem Alike.trans (hab : g.Alike roots a b) (hbc : g.Alike roots b c) : g.Alike roots a c :=
  ⟨hab.left, hbc.right, hab.left_open, hbc.right_open, hab.identity.trans hbc.identity⟩

/-- Types that are alike have one signature. -/
theorem Alike.signature_eq (hcoherent : g.Coherent roots) (h : g.Alike roots a b) :
    g.signature a = g.signature b :=
  hcoherent a b h.left h.right h.left_open h.right_open h.identity

/-- Types that are alike are of one kind. -/
theorem Alike.kind_eq (hcoherent : g.Coherent roots) (h : g.Alike roots a b) :
    (g.node a).kind = (g.node b).kind :=
  congrArg Signature.kind (h.signature_eq hcoherent)

/-- Parts of like types that look the same are alike. -/
theorem Alike.of_label_eq (h : g.Alike roots a b) {s t : Ref} (hs : s ∈ g.parts a)
    (ht : t ∈ g.parts b) (hplain : ¬ g.Plain s) (hlabel : g.label s = g.label t) :
    g.Alike roots s t := by
  simp only [label, Prod.mk.injEq] at hlabel
  refine ⟨h.left.trans (Reaches.of_mem_parts hs), h.right.trans (Reaches.of_mem_parts ht), hplain,
    ?_, hlabel.2⟩
  rw [Plain, ← hlabel.1]
  exact hplain

/-- **Like types have like parts.** -/
theorem Alike.part (hcoherent : g.Coherent roots) (h : g.Alike roots a b) {s : Ref}
    (hs : s ∈ g.parts a) (hplain : ¬ g.Plain s) : ∃ t ∈ g.parts b, g.Alike roots s t := by
  have hmem : g.label s ∈ (g.parts b).map g.label := by
    rw [← map_label_parts_eq (h.signature_eq hcoherent)]
    exact List.mem_map_of_mem hs
  obtain ⟨t, ht, hlabel⟩ := List.mem_map.1 hmem
  exact ⟨t, ht, h.of_label_eq hs ht hplain hlabel.symm⟩

/-- Like types that are no objects have the same part. -/
theorem Alike.of_wraps (hcoherent : g.Coherent roots) (h : g.Alike roots a b) {s t : Ref}
    (hs : g.Wraps a s) (ht : g.Wraps b t) (hplain : ¬ g.Plain s) : g.Alike roots s t := by
  have hlabels := map_label_parts_eq (h.signature_eq hcoherent)
  rw [parts_eq_singleton hs, parts_eq_singleton ht] at hlabels
  exact h.of_label_eq hs.2 ht.2 hplain (List.singleton_inj.1 hlabels)

/-! ### A way from a type to its like -/

/-- A way of steps that like types have in common can be gone from either. -/
theorem Alike.lift {R : Ref → Ref → Prop} (hopen : ∀ {a s}, R a s → ¬ g.Plain a)
    (hstep : ∀ {a b s}, g.Alike roots a b → R a s → ¬ g.Plain s → ∃ t, R b t ∧ g.Alike roots s t)
    (h : g.Alike roots a b) {s : Ref} (hs : Relation.TransGen R a s) (hplain : ¬ g.Plain s) :
    ∃ t, Relation.TransGen R b t ∧ g.Alike roots s t := by
  induction hs with
  | single hs =>
    obtain ⟨t, ht, halike⟩ := hstep h hs hplain
    exact ⟨t, .single ht, halike⟩
  | tail _ hlast ih =>
    obtain ⟨t, ht, halike⟩ := ih (hopen hlast)
    obtain ⟨last, hlast', halike'⟩ := hstep halike hlast hplain
    exact ⟨last, ht.tail hlast', halike'⟩

/-- In a finite type, a transitive relation that can always be continued has a loop. -/
theorem exists_loop_of_continued {α : Type} [Finite α] {S : α → α → Prop}
    (htrans : ∀ a b c, S a b → S b c → S a c) (hcontinued : ∀ a b, S a b → ∃ c, S b c) {a b : α}
    (h : S a b) : ∃ c, S c c := by
  by_contra hloop
  have : IsTrans α fun b a => S a b := ⟨fun c b a hcb hba => htrans a b c hba hcb⟩
  have : Std.Irrefl fun b a => S a b := ⟨fun c hc => hloop ⟨c, hc⟩⟩
  have hwf : WellFounded fun b a => S a b := Finite.wellFounded_of_trans_of_irrefl _
  have hnone : ∀ a b, ¬ S a b := by
    intro a
    induction a using hwf.induction with
    | _ a ih =>
      intro b hb
      obtain ⟨c, hc⟩ := hcontinued a b hb
      exact ih b hb c hc
  exact hnone a b h

/-- A graph has finitely many references. -/
theorem finite_refs (g : Graph Ref) : Finite Ref :=
  Set.finite_univ_iff.1 ((List.finite_toSet g.refs).subset fun r _ => g.mem_refs r)

/-- **A way from a type to its like means a cycle** through a like type, by steps that like types have
in common. -/
theorem Alike.exists_loop {R : Ref → Ref → Prop} (hopen : ∀ {a s}, R a s → ¬ g.Plain a)
    (hstep : ∀ {a b s}, g.Alike roots a b → R a s → ¬ g.Plain s → ∃ t, R b t ∧ g.Alike roots s t)
    (h : g.Alike roots a b) (hway : Relation.TransGen R a b) :
    ∃ c, g.Alike roots a c ∧ Relation.TransGen R c c := by
  have := finite_refs g
  have hself : g.Alike roots a a := ⟨h.left, h.left, h.left_open, h.left_open, rfl⟩
  obtain ⟨c, ⟨-, hc⟩, hloop⟩ := exists_loop_of_continued
    (S := fun x y => (g.Alike roots a x ∧ g.Alike roots a y) ∧ Relation.TransGen R x y)
    (fun x y z hxy hyz => ⟨⟨hxy.1.1, hyz.1.2⟩, hxy.2.trans hyz.2⟩)
    (fun x y ⟨⟨hx, hy⟩, hxy⟩ => by
      have halike : g.Alike roots x y :=
        ⟨hx.right, hy.right, hx.right_open, hy.right_open, hx.identity.symm.trans hy.identity⟩
      obtain ⟨z, hyz, hz⟩ := halike.lift hopen hstep hxy hy.right_open
      exact ⟨z, ⟨hy, hy.trans hz⟩, hyz⟩)
    (show (g.Alike roots a a ∧ g.Alike roots a b) ∧ _ from ⟨⟨hself, h⟩, hway⟩)
  exact ⟨c, hc, hloop⟩

/-- An object that leads to its like has a like on a cycle. -/
theorem Alike.exists_contains_self (hcoherent : g.Coherent roots) (h : g.Alike roots a b)
    (hway : g.Contains a b) : ∃ c, g.Alike roots a c ∧ g.Contains c c :=
  h.exists_loop not_plain_of_mem_parts
    (fun halike hs hplain => halike.part hcoherent hs hplain) hway

/-- In a grounded type, containers alone do not lead from a type to its like. -/
theorem Alike.not_transGen_wraps {r : Ref} (hcoherent : g.Coherent [r]) (hgrounded : g.Grounded r)
    (h : g.Alike [r] a b) : ¬ Relation.TransGen g.Wraps a b := by
  intro hway
  obtain ⟨c, hc, hloop⟩ := h.exists_loop (fun hs => not_plain_of_mem_parts hs.2)
    (fun halike hs hplain => by
      obtain ⟨t, ht, halike'⟩ := halike.part hcoherent hs.2 hplain
      exact ⟨t, ⟨halike.kind_eq hcoherent ▸ hs.1, ht⟩, halike'⟩) hway
  obtain ⟨root, hroot, hreaches⟩ := hc.right
  rw [List.mem_singleton.1 hroot] at hreaches
  exact hgrounded c hreaches hloop

/-! ### The next object -/

/-- Like types lead through containers to one object. -/
theorem Alike.next_object (hcoherent : g.Coherent roots) (h : g.Alike roots a b) {o p : Ref}
    (ho : Relation.ReflTransGen g.Wraps a o) (hobject : (g.node o).kind = .object)
    (hp : Relation.ReflTransGen g.Wraps b p) (hobject' : (g.node p).kind = .object) :
    g.identity o = g.identity p := by
  induction ho using Relation.ReflTransGen.head_induction_on generalizing b with
  | refl =>
    rcases hp.cases_head with rfl | ⟨t, ht, -⟩
    · exact h.identity
    · exact absurd (h.kind_eq hcoherent ▸ hobject) ht.1
  | @head a s hs hso ih =>
    rcases hp.cases_head with rfl | ⟨t, ht, htp⟩
    · exact absurd (h.kind_eq hcoherent ▸ hobject') hs.1
    · have hplain : ¬ g.Plain s := by
        rcases hso.cases_head with rfl | ⟨u, hu, -⟩
        · exact not_plain_of_object hobject
        · exact not_plain_of_mem_parts hu.2
      exact ih (h.of_wraps hcoherent hs ht hplain) htp

end

/-- On a way from a container to a type there is an object, to which containers lead, or there are
containers only. -/
theorem wraps_or_object {a b : Ref} {between : List Ref}
    (hchain : (a :: (between ++ [b])).IsChain fun r s => s ∈ g.parts r)
    (ha : (g.node a).kind ≠ .object) :
    Relation.TransGen g.Wraps a b ∨
      ∃ o ∈ between, (g.node o).kind = .object ∧ Relation.ReflTransGen g.Wraps a o := by
  induction between generalizing a with
  | nil => exact .inl (.single ⟨ha, (List.isChain_cons_cons.1 hchain).1⟩)
  | cons s rest ih =>
    obtain ⟨hs, hrest⟩ := List.isChain_cons_cons.1 hchain
    have hfirst : g.Wraps a s := ⟨ha, hs⟩
    by_cases hobject : (g.node s).kind = .object
    · exact .inr ⟨s, List.mem_cons_self, hobject, .single hfirst⟩
    · rcases ih hrest hobject with hway | ⟨o, ho, hkind, hway⟩
      · exact .inl (hway.head hfirst)
      · exact .inr ⟨o, List.mem_cons_of_mem _ ho, hkind, hway.head hfirst⟩

/-! ### Ways without a repeated object -/

/-- A sublist that starts with an element stands behind a place where that is. -/
theorem exists_append_of_cons_sublist {α : Type} {a : α} {rest l : List α}
    (h : (a :: rest).Sublist l) : ∃ before after, l = before ++ a :: after ∧ rest.Sublist after := by
  obtain ⟨front, back, rfl, hmem, hrest⟩ := List.cons_sublist_iff.1 h
  obtain ⟨before, after, rfl⟩ := List.append_of_mem hmem
  exact ⟨before, after ++ back, by simp, hrest.trans (List.sublist_append_right after back)⟩

/-- A list with three elements of one name splits at them. -/
theorem exists_append_of_two_lt_count {α : Type} {f : α → String} {l : List α} {id : String}
    (h : 2 < (l.map f).count id) :
    ∃ before a first b second c after, l = before ++ a :: (first ++ b :: (second ++ c :: after)) ∧
      f a = id ∧ f b = id ∧ f c = id := by
  have hthree : (List.replicate 3 id).Sublist (l.map f) := List.replicate_sublist_iff.2 h
  obtain ⟨found, hfound, hids⟩ := List.sublist_map_iff.1 hthree
  have hlength : found.length = 3 := by simpa using (congrArg List.length hids).symm
  obtain ⟨a, b, c, rfl⟩ := List.length_eq_three.1 hlength
  obtain ⟨before, behindA, rfl, hfoundA⟩ := exists_append_of_cons_sublist hfound
  obtain ⟨first, behindB, rfl, hfoundB⟩ := exists_append_of_cons_sublist hfoundA
  obtain ⟨second, after, rfl, -⟩ := exists_append_of_cons_sublist hfoundB
  simp only [List.replicate, List.map_cons, List.map_nil, List.cons.injEq, and_true] at hids
  exact ⟨before, a, first, b, second, c, after, rfl, hids.1.symm, hids.2.1.symm, hids.2.2.symm⟩

/-- A way down from a type, of types that lead to others, on which no object comes twice. -/
structure Walk (g : Graph Ref) (r : Ref) (walk : List Ref) : Prop where
  /-- Each type is a part of the one before. -/
  chain : walk.IsChain fun r s => s ∈ g.parts r
  /-- All are below the start. -/
  below : ∀ s ∈ walk, g.Reaches r s
  /-- None is a plain value. -/
  compound : ∀ s ∈ walk, ¬ g.Plain s
  /-- Objects have different identities. -/
  objects : walk.Pairwise fun a b =>
    (g.node a).kind = .object → (g.node b).kind = .object → g.identity a ≠ g.identity b

/-- Types on a way that have one identity are alike. -/
theorem Walk.alike {r : Ref} {walk : List Ref} (h : g.Walk r walk) {a b : Ref} (ha : a ∈ walk)
    (hb : b ∈ walk) (hid : g.identity a = g.identity b) : g.Alike [r] a b where
  left := ⟨r, List.mem_singleton_self r, h.below a ha⟩
  right := ⟨r, List.mem_singleton_self r, h.below b hb⟩
  left_open := h.compound a ha
  right_open := h.compound b hb
  identity := hid

/-- A way without a repeated object does not come to an identity for the third time: the next object
after the first time would come again after the second. -/
theorem Walk.not_thrice {r a b c : Ref} {before first second after : List Ref}
    (h : g.Walk r (before ++ a :: (first ++ b :: (second ++ c :: after))))
    (hcoherent : g.Coherent [r]) (hgrounded : g.Grounded r)
    (hidab : g.identity a = g.identity b) (hidbc : g.identity b = g.identity c) : False := by
  have hab : g.Alike [r] a b := h.alike (by simp) (by simp) hidab
  have hbc : g.Alike [r] b c := h.alike (by simp) (by simp) hidbc
  have hfirst : (a :: (first ++ [b])).IsChain fun r s => s ∈ g.parts r :=
    h.chain.infix ⟨before, second ++ c :: after, by simp⟩
  have hsecond : (b :: (second ++ [c])).IsChain fun r s => s ∈ g.parts r :=
    h.chain.infix ⟨before ++ a :: first, after, by simp⟩
  obtain ⟨hbehind, hlater⟩ := List.pairwise_cons.1 (List.pairwise_append.1 h.objects).2.1
  by_cases hobject : (g.node a).kind = .object
  · have hobject' : (g.node b).kind = .object := hab.kind_eq hcoherent ▸ hobject
    exact hbehind b (by simp) hobject hobject' hidab
  · have hobject' : (g.node b).kind ≠ .object := hab.kind_eq hcoherent ▸ hobject
    obtain ⟨o, ho, hokind, hao⟩ := (wraps_or_object hfirst hobject).resolve_left
      (hab.not_transGen_wraps hcoherent hgrounded)
    obtain ⟨p, hp, hpkind, hbp⟩ := (wraps_or_object hsecond hobject').resolve_left
      (hbc.not_transGen_wraps hcoherent hgrounded)
    have hdifferent := (List.pairwise_append.1 hlater).2.2 o ho p (by simp [hp])
    exact hdifferent hokind hpkind (hab.next_object hcoherent hao hokind hbp hpkind)

/-- **No identity comes three times** on a way without a repeated object. -/
theorem Walk.count_le_two {r : Ref} {walk : List Ref} (h : g.Walk r walk)
    (hcoherent : g.Coherent [r]) (hgrounded : g.Grounded r) (id : String) :
    (walk.map g.identity).count id ≤ 2 := by
  by_contra hcount
  obtain ⟨before, a, first, b, second, c, after, rfl, ha, hb, hc⟩ :=
    exists_append_of_two_lt_count (Nat.lt_of_not_le hcount)
  exact h.not_thrice hcoherent hgrounded (ha.trans hb.symm) (hb.trans hc.symm)

/-- The identities below a type are among those of the graph. -/
theorem identitiesBelow_subset (r : Ref) :
    g.identitiesBelow r ⊆ ((g.refs.map g.identity).toFinset : Set String) := by
  rintro id ⟨s, -, rfl⟩
  exact List.mem_toFinset.2 (List.mem_map_of_mem (g.mem_refs s))

/-- There are no more identities than references. -/
theorem ncard_identitiesBelow_le (r : Ref) : (g.identitiesBelow r).ncard ≤ g.refs.length :=
  calc (g.identitiesBelow r).ncard
      ≤ ((g.refs.map g.identity).toFinset : Set String).ncard :=
        Set.ncard_le_ncard (identitiesBelow_subset r) (Finset.finite_toSet _)
    _ = (g.refs.map g.identity).toFinset.card := Set.ncard_coe_finset _
    _ ≤ g.refs.length := by
        simpa using List.toFinset_card_le (g.refs.map g.identity)

/-- **A way without a repeated object** has at most two steps for each identity below its start. -/
theorem Walk.length_le {r : Ref} {walk : List Ref} (h : g.Walk r walk) (hcoherent : g.Coherent [r])
    (hgrounded : g.Grounded r) : walk.length ≤ 2 * (g.identitiesBelow r).ncard := by
  let ids : Finset String := (walk.map g.identity).toFinset
  have hids : (ids : Set String) ⊆ g.identitiesBelow r := by
    intro id hid
    obtain ⟨s, hs, rfl⟩ := List.mem_map.1 (List.mem_toFinset.1 hid)
    exact ⟨s, h.below s hs, rfl⟩
  calc walk.length
      = ∑ id ∈ ids, (walk.map g.identity).count id := by
        rw [List.sum_toFinset_count_eq_length, List.length_map]
    _ ≤ ids.card • 2 := Finset.sum_le_card_nsmul _ _ _ fun id _ =>
        h.count_le_two hcoherent hgrounded id
    _ = 2 * (ids : Set String).ncard := by
        rw [Set.ncard_coe_finset, smul_eq_mul, Nat.mul_comm]
    _ ≤ 2 * (g.identitiesBelow r).ncard :=
        Nat.mul_le_mul_left 2
          (Set.ncard_le_ncard hids ((Finset.finite_toSet _).subset (identitiesBelow_subset r)))

/-- A type is grounded if containers lead up in some order. -/
theorem grounded_of_rank (rank : Ref → Nat)
    (h : ∀ r s, (g.node r).kind ≠ .object → s ∈ g.parts r → rank r < rank s) (r : Ref) :
    g.Grounded r := by
  have hway : ∀ {a b : Ref}, Relation.TransGen g.Wraps a b → rank a < rank b := by
    intro a b hab
    induction hab with
    | single hs => exact h _ _ hs.1 hs.2
    | tail _ hs ih => exact ih.trans (h _ _ hs.1 hs.2)
  exact fun s _ hloop => Nat.lt_irrefl _ (hway hloop)

end TypeSchema.Graph
