import TypeSchema.Proofs.Descriptor.Trail
import TypeSchema.Proofs.Validation.History

/-!
# The defect that is reported

When validation refuses a type, which defect does it report, and on which way? The walk passes over
types that it is inside of, has finished in this call, or has found valid before, so it does not go all
ways. It goes enough of them: the error is that of the first trail, in depth-first order, that comes to
no identity twice and ends at a defect.

The reason is an invariant of the walk, `Inside`: every known identity is that of a type the walk is
inside of, or of a well-formed type whose parts are known in turn. Hence a trail from a known type that
keeps away from the types around it stays among types of the second sort and never comes to a defect
(`Inside.wellFormed_of_trail`), and no offense is missed where the walk passes over a type. By induction
along the walk (`finds_walk`) what the walk reports is what is first.
-/

namespace TypeSchema

namespace Graph

variable {Ref : Type}

/-! ### Defects and offenses -/

/-- What is wrong with a descriptor by itself. -/
inductive Flaw (g : Graph Ref) (r : Ref) : Defect → Prop where
  /-- A list with more or fewer elements than one. -/
  | list (hkind : (g.node r).kind = .list) (hlength : (g.node r).elements.length ≠ 1) :
      Flaw g r .listArity
  /-- A set with more or fewer elements than one. -/
  | set (hkind : (g.node r).kind = .set) (hlength : (g.node r).elements.length ≠ 1) :
      Flaw g r .setArity
  /-- A map with more or fewer elements than two. -/
  | map (hkind : (g.node r).kind = .map) (hlength : (g.node r).elements.length ≠ 2) :
      Flaw g r .mapArity
  /-- A map whose keys are no texts. -/
  | key {key value : Element Ref} (hkind : (g.node r).kind = .map)
      (helements : (g.node r).elements = [key, value])
      (hkey : (g.node key.target).kind ≠ .primitive .string) :
      Flaw g r (.mapKey (g.identity key.target))
  /-- An enumeration that has not asked for a schema. -/
  | enumeration {values : List String} (hkind : (g.node r).kind = .enumeration values)
      (heligible : (g.node r).eligible = false) : Flaw g r (.enumNotEligible (g.identity r))
  /-- An object that has not asked for a schema. -/
  | object (hkind : (g.node r).kind = .object) (heligible : (g.node r).eligible = false) :
      Flaw g r (.objectNotEligible (g.identity r))
  /-- A type of which only the name is known. -/
  | contextual (hkind : (g.node r).kind = .contextual) : Flaw g r (.unresolved (g.identity r))

variable {g : Graph Ref} {r : Ref}

/-- What is no list of one element has another length. -/
theorem length_ne_one {α : Type} {l : List α} (h : ∀ a, l ≠ [a]) : l.length ≠ 1 := by
  intro hlength
  obtain ⟨a, ha⟩ := List.length_eq_one_iff.1 hlength
  exact h a ha

/-- **The check of a descriptor by itself** reports what is wrong with it, and nothing else. -/
theorem steps_eq_error_iff {defect : Defect} : g.steps r = .error defect ↔ g.Flaw r defect := by
  constructor
  · intro h
    simp only [steps, Node.steps] at h
    cases hk : (g.node r).kind <;> simp only [hk] at h
    case primitive | polymorphic => cases h
    case contextual =>
      cases h
      exact .contextual hk
    case object =>
      split at h
      · cases h
      · next heligible =>
        cases h
        exact .object hk (by simpa using heligible)
    case enumeration =>
      split at h
      · cases h
      · next heligible =>
        cases h
        exact .enumeration hk (by simpa using heligible)
    case list =>
      split at h
      · cases h
      · next hne =>
        cases h
        exact .list hk (length_ne_one hne)
    case set =>
      split at h
      · cases h
      · next hne =>
        cases h
        exact .set hk (length_ne_one hne)
    case map =>
      split at h
      · next key value hpair =>
        split at h
        · cases h
        · next hkey =>
          cases h
          exact .key hk hpair hkey
      · next hne =>
        cases h
        refine .map hk fun hlength => ?_
        obtain ⟨key, value, hpair⟩ := List.length_eq_two.1 hlength
        exact hne key value hpair
  · intro h
    cases h with
    | list hkind hlength | set hkind hlength =>
      simp only [steps, Node.steps, hkind]
      split
      · next hitem => simp [hitem] at hlength
      · rfl
    | map hkind hlength =>
      simp only [steps, Node.steps, hkind]
      split
      · next hpair => simp [hpair] at hlength
      · rfl
    | key hkind helements hkey => simp [steps, Node.steps, hkind, helements, hkey, identity]
    | enumeration hkind heligible | object hkind heligible =>
      simp [steps, Node.steps, hkind, heligible, identity]
    | contextual hkind => simp [steps, Node.steps, hkind, identity]

/-- Does a type that is not right by itself end a way on which no identity comes twice? -/
def Offends (g : Graph Ref) (above : List Ref) (r : Ref) : Prop :=
  ((above ++ [r]).map g.identity).Nodup ∧ ¬ g.WellFormed r

/-- Does the error have the given path, and is its defect what is wrong with the type? -/
def Describes (g : Graph Ref) (path : List String) (_above : List Ref) (r : Ref)
    (e : ValidationError) : Prop :=
  e.path = path ∧ g.Flaw r e.defect

/-- One path leads to one error. -/
theorem Describes.unique {path : List String} {above : List Ref} {e e' : ValidationError}
    (h : g.Describes path above r e) (h' : g.Describes path above r e') : e = e' := by
  have hdefect : e.defect = e'.defect :=
    Except.error.inj ((steps_eq_error_iff.2 h.2).symm.trans (steps_eq_error_iff.2 h'.2))
  have hpath : e.path = e'.path := h.1.trans h'.1.symm
  cases e
  cases e'
  cases hpath
  cases hdefect
  rfl

end Graph

namespace Validator

variable {Ref : Type} {g : Graph Ref} {roots above : List Ref} {v : Validator} {r : Ref}

/-! ### The invariant of the walk -/

/-- Is the walk inside of the given types, the outermost first, and is everything else it knows the
identity of a well-formed type whose parts it knows? -/
structure Inside (g : Graph Ref) (roots above : List Ref) (v : Validator) : Prop where
  /-- It is inside of these types. -/
  visiting : v.visiting = (above.map g.identity).reverse
  /-- No identity comes twice among them. -/
  nodup : (above.map g.identity).Nodup
  /-- What it knows of other types has a reason. -/
  backed : ∀ id, v.Knows id → id ∈ v.visiting ∨ g.Backed (g.ReachedFrom roots) v.Knows id

/-- The validator is inside of the types above. -/
theorem Inside.mem_visiting_iff (h : Inside g roots above v) {id : String} :
    id ∈ v.visiting ↔ id ∈ above.map g.identity := by
  rw [h.visiting, List.mem_reverse]

/-- Between calls the walk is inside of nothing. -/
theorem Supported.inside (h : v.Supported g roots) : Inside g roots [] v where
  visiting := h.idle.visiting
  nodup := List.nodup_nil
  backed id hid :=
    .inr ((h.backed id (h.idle.knows_iff.1 hid)).mono (fun _ hs => hs) fun _ => .inl)

/-- Below the types it is inside of, an unknown type has an identity of its own. -/
theorem Inside.nodup_append (h : Inside g roots above v) (hknows : ¬ v.Knows (g.identity r)) :
    ((above ++ [r]).map g.identity).Nodup := by
  have hnew : g.identity r ∉ above.map g.identity := fun hmem =>
    hknows (.inr (.inl (h.mem_visiting_iff.2 hmem)))
  rw [List.map_append, List.map_singleton, List.nodup_append_comm]
  exact List.nodup_cons.2 ⟨hnew, h.nodup⟩

/-- Entering an unknown type. -/
theorem Inside.enter (h : Inside g roots above v) (hknows : ¬ v.Knows (g.identity r)) :
    Inside g roots (above ++ [r]) (v.enter (g.identity r)) := by
  refine ⟨?_, h.nodup_append hknows, fun id hid => ?_⟩
  · simp [Validator.enter, h.visiting]
  · have hmore : ∀ other, v.Knows other → (v.enter (g.identity r)).Knows other :=
      fun other hother => knows_enter_iff.2 (.inr hother)
    rcases knows_enter_iff.1 hid with rfl | hid
    · exact .inl List.mem_cons_self
    · rcases h.backed id hid with hvisiting | hback
      · exact .inl (List.mem_cons_of_mem _ hvisiting)
      · exact .inr (hback.mono (fun _ hs => hs) hmore)

/-- A walk to a part that succeeded has a reason for what it adds. -/
theorem Inside.after_visit (h : Inside g roots above v) (houter : v.visiting ≠ [])
    (hr : g.ReachedFrom roots r) (hok : (visit g v r).result = .ok ()) :
    Inside g roots above (visit g v r).after := by
  have hvisiting : (visit g v r).after.visiting = v.visiting := (visiting_walk.1 v r houter).1
  refine ⟨hvisiting.trans h.visiting, h.nodup, fun id hid => ?_⟩
  have hbelow : ∀ s, g.ReachedFrom [r] s → g.ReachedFrom roots s := by
    rintro s ⟨root, hroot, hs⟩
    rw [List.mem_singleton.1 hroot] at hs
    exact hr.trans hs
  rcases (learns_visit hok).backed id hid with hbefore | hback
  · rcases h.backed id hbefore with hmem | hback
    · exact .inl (hvisiting ▸ hmem)
    · exact .inr (hback.mono (fun _ hs => hs) ((visit g v r).knows hok))
  · exact .inr (hback.mono hbelow fun _ hid => hid)

/-! ### What the walk passes over -/

/-- A settled type outside of the types the walk is inside of is well formed, and its parts are
settled. -/
theorem Inside.step (h : Inside g roots above v) (hcoherent : g.Coherent roots)
    (hr : g.ReachedFrom roots r) (hsettled : g.Settles v.Knows r)
    (haway : g.identity r ∉ v.visiting) :
    g.WellFormed r ∧ ∀ s ∈ g.parts r, g.Settles v.Knows s := by
  by_cases hplain : g.Plain r
  · refine ⟨Graph.wellFormed_of_plain hplain, fun s hs => ?_⟩
    rw [Graph.parts_eq_nil_of_plain hplain] at hs
    exact absurd hs List.not_mem_nil
  · have hknows : v.Knows (g.identity r) := hsettled.resolve_left hplain
    obtain ⟨s, hs, hsplain, hid, hwf, hparts⟩ := (h.backed _ hknows).resolve_left haway
    have hsig : g.signature s = g.signature r := hcoherent s r hs hr hsplain hplain hid
    exact ⟨Graph.wellFormed_of_signature_eq hsig hwf,
      Graph.settles_parts_of_signature_eq hsig hparts⟩

/-- **A trail from a settled type that keeps away from the types the walk is inside of** does not come
to a defect: it stays among settled types to its end. -/
theorem Inside.wellFormed_of_trail (h : Inside g roots above v) (hcoherent : g.Coherent roots)
    {last : Ref} {turns : List Nat} {segments : List String} {passed : List Ref}
    (htrail : g.Trail r turns segments passed last) (hr : g.ReachedFrom roots r)
    (hsettled : g.Settles v.Knows r)
    (haway : ∀ s ∈ passed ++ [last], g.identity s ∉ v.visiting) : g.WellFormed last := by
  induction htrail with
  | here r =>
    exact (h.step hcoherent hr hsettled (haway r (List.mem_singleton_self r))).1
  | @down r s last position segment turns segments passed hstep hrest ih =>
    have hs : s ∈ g.parts r := List.mem_of_getElem? (Graph.getElem?_parts hstep)
    obtain ⟨-, hparts⟩ := h.step hcoherent hr hsettled (haway r List.mem_cons_self)
    apply ih (hr.trans (Graph.Reaches.of_mem_parts hs)) (hparts s hs)
    intro t ht
    exact haway t (List.mem_cons_of_mem r ht)

/-- Below a settled type there is no offense. -/
theorem Inside.clear_of_settles (h : Inside g roots above v) (hcoherent : g.Coherent roots)
    (hr : g.ReachedFrom roots r) (hsettled : g.Settles v.Knows r) : g.Clear g.Offends above r := by
  rintro turns ⟨segments, passed, last, htrail, hnodup, hdefect⟩
  apply hdefect
  apply h.wellFormed_of_trail hcoherent htrail hr hsettled
  intro s hs hvisiting
  -- An identity around the start that comes again on the trail comes twice.
  rw [List.append_assoc, List.map_append, List.nodup_append] at hnodup
  exact hnodup.2.2 _ (h.mem_visiting_iff.1 hvisiting) _ (List.mem_map_of_mem hs) rfl

/-! ### What the walk reports -/

/-- What a walk to several types in turn finds: the first offense below the first of them below which
there is one. -/
structure FindsAmong (g : Graph Ref) (above : List Ref) (ways : List (Graph.Step Ref))
    (result : Except ValidationError Unit) : Prop where
  /-- A success means that there is nothing to be found. -/
  clear : result = .ok () → ∀ way ∈ ways, g.Clear g.Offends above way.2
  /-- An error is the report of what is first, one step further out. -/
  reports : ∀ e, result = .error e →
    ∃ (position : Nat) (segment : String) (s : Ref) (inner : ValidationError),
      ways[position]? = some (segment, s) ∧ e = inner.within segment ∧
        g.Reports g.Offends g.Describes above s inner ∧
          ∀ earlier < position, ∀ way, ways[earlier]? = some way → g.Clear g.Offends above way.2

/-- From the parts of a well-formed type to the type. One step further out, an error has one segment
more. -/
theorem FindsAmong.finds {result : Except ValidationError Unit} (hwf : g.WellFormed r)
    (h : FindsAmong g (above ++ [r]) (g.branches r) result) :
    g.Finds g.Offends g.Describes above r result := by
  have hnot : ¬ g.Offends above r := fun hoffends => hoffends.2 hwf
  refine ⟨fun _ hok => ?_, fun e herror => ?_⟩
  · apply Graph.clear_of_parts hnot
    intro s hs
    rw [← Graph.map_snd_branches] at hs
    obtain ⟨way, hway, rfl⟩ := List.mem_map.1 hs
    exact h.clear hok way hway
  · obtain ⟨position, segment, s, inner, hstep, rfl, hreports, hbefore⟩ := h.reports e herror
    refine hreports.cons hnot hstep (fun earlier hearlier t ht => ?_) fun path passed last hinner =>
      ⟨congrArg (segment :: ·) hinner.1, hinner.2⟩
    obtain ⟨name, hway⟩ := Graph.exists_branch ht
    exact hbefore earlier hearlier _ hway

/-- **What a walk reports is what is first**, whatever was known when it began. -/
theorem finds_walk (hcoherent : g.Coherent roots) :
    (∀ v r above, Inside g roots above v → g.ReachedFrom roots r →
        g.Finds g.Offends g.Describes above r (visit g v r).result) ∧
      ∀ v ways above, Inside g roots above v → v.visiting ≠ [] →
        (∀ way ∈ ways, g.ReachedFrom roots way.2) →
        FindsAmong g above ways (visitAll g v ways).result := by
  refine walk_induction
    (P := fun v r walk => ∀ above, Inside g roots above v → g.ReachedFrom roots r →
      g.Finds g.Offends g.Describes above r walk.result)
    (Q := fun v ways walk => ∀ above, Inside g roots above v → v.visiting ≠ [] →
      (∀ way ∈ ways, g.ReachedFrom roots way.2) → FindsAmong g above ways walk.result)
    ?plain ?known ?defect ?parts ?nil ?stop ?next
  case plain =>
    intro v r hplain above hinside hr
    exact ⟨fun _ _ => hinside.clear_of_settles hcoherent hr (.inl hplain), by rintro e ⟨⟩⟩
  case known =>
    intro v r _ hknows above hinside hr
    exact ⟨fun _ _ => hinside.clear_of_settles hcoherent hr (.inr hknows), by rintro e ⟨⟩⟩
  case defect =>
    intro v r d _ hknows hsteps above hinside hr
    rw [Visit.result_leave]
    have hwf : ¬ g.WellFormed r := Graph.not_wellFormed_of_steps_eq_error hsteps
    refine ⟨by rintro _ ⟨⟩, ?_⟩
    rintro e ⟨⟩
    exact Graph.reports_nil ⟨hinside.nodup_append hknows, hwf⟩
      ⟨rfl, Graph.steps_eq_error_iff.1 hsteps⟩
  case parts =>
    intro v r ways _ hknows hsteps ih above hinside hr
    rw [Visit.result_leave]
    obtain ⟨hwf, rfl⟩ := Graph.steps_eq_ok_iff.1 hsteps
    have hways : ∀ way ∈ g.branches r, g.ReachedFrom roots way.2 := by
      intro way hway
      apply hr.trans (Graph.Reaches.of_mem_parts _)
      rw [← Graph.map_snd_branches]
      exact List.mem_map_of_mem hway
    exact (ih (above ++ [r]) (hinside.enter hknows) (List.cons_ne_nil _ _) hways).finds hwf
  case nil =>
    intro v above _ _ _
    exact ⟨fun _ way hway => absurd hway List.not_mem_nil, by rintro e ⟨⟩⟩
  case stop =>
    intro v segment r rest inner herror ih above hinside _ hways
    refine ⟨by rintro ⟨⟩, ?_⟩
    rintro e ⟨⟩
    have hreports := (ih above hinside (hways _ List.mem_cons_self)).reports inner herror
    exact ⟨0, segment, r, inner, rfl, rfl, hreports, by simp⟩
  case next =>
    intro v segment r rest hok ih ihrest above hinside houter hways
    have hr : g.ReachedFrom roots r := hways _ List.mem_cons_self
    have hfirst : g.Clear g.Offends above r := (ih above hinside hr).clear () hok
    have hvisiting : (visit g v r).after.visiting = v.visiting := (visiting_walk.1 v r houter).1
    have hlater := ihrest above (hinside.after_visit houter hr hok) (hvisiting ▸ houter)
      fun way hway => hways way (List.mem_cons_of_mem _ hway)
    refine ⟨fun hrest way hway => ?_, fun e herror => ?_⟩
    · rcases List.mem_cons.1 hway with rfl | hway
      · exact hfirst
      · exact hlater.clear hrest way hway
    · obtain ⟨position, name, s, inner, hstep, rfl, hreports, hbefore⟩ := hlater.reports e herror
      refine ⟨position + 1, name, s, inner, hstep, rfl, hreports, fun earlier hearlier way hway => ?_⟩
      cases earlier with
      | zero =>
        cases hway
        exact hfirst
      | succ earlier => exact hbefore earlier (Nat.lt_of_succ_lt_succ hearlier) way hway

/-- A call finds what is first, whatever history the validator has. -/
theorem Supported.finds (h : v.Supported g roots) (hcoherent : g.Coherent roots)
    (hr : g.ReachedFrom roots r) :
    g.Finds g.Offends g.Describes [] r (v.validate g r).1.result :=
  (finds_walk hcoherent).1 v r [] h.inside hr

end Validator

namespace Graph

open Validator

variable {Ref : Type} {g : Graph Ref}

/-- **The error of validation is that of the first offense.** In a coherent family, whatever was
validated before, a type is refused with an error if and only if this is the error of the first trail,
in depth-first order, that comes to no identity twice and ends at a type that is not well formed. The
path of the error names the steps of the trail, one for each, and the defect is what is wrong with the
type at its end. -/
theorem refused_iff_first_offense {history : List Ref} {r : Ref}
    (hcoherent : g.Coherent (r :: history)) (e : ValidationError) :
    ((validateAll g new history).2.validate g r).1.result = .error e ↔
      ∃ turns passed last, g.IsFirst g.Offends [] r turns ∧ g.Trail r turns e.path passed last ∧
        e.path.length = turns.length ∧ g.Flaw last e.defect := by
  have hhistory : ∀ s ∈ history, g.ReachedFrom (r :: history) s := fun s hs =>
    reachedFrom_of_mem (List.mem_cons_of_mem r hs)
  have hsupported : (validateAll g new history).2.Supported g (r :: history) :=
    supported_validateAll supported_new hhistory
  have hfinds := hsupported.finds hcoherent (reachedFrom_of_mem List.mem_cons_self)
  rw [hfinds.eq_error_iff fun _ _ _ _ _ => Describes.unique]
  constructor
  · rintro ⟨turns, segments, passed, last, hfirst, htrail, rfl, hflaw⟩
    exact ⟨turns, passed, last, hfirst, htrail, htrail.lengths.1, hflaw⟩
  · rintro ⟨turns, passed, last, hfirst, htrail, -, hflaw⟩
    exact ⟨turns, e.path, passed, last, hfirst, htrail, rfl, hflaw⟩

/-- In the family with a cycle, a visit is refused after a parent was accepted. The first field leads
back and forth between children and parents and to no offense; the second leads to a type of which
only the name is known. -/
theorem refused_iff_first_offense_visit :
    ∃ turns passed last, family.IsFirst family.Offends [] 4 turns ∧
      family.Trail 4 turns ["Visit.id"] passed last ∧ turns.length = 1 ∧
      family.Flaw last (.unresolved "Uuid") := by
  have hrefused : ((validateAll family new [0]).2.validate family 4).1.result =
      .error ⟨.unresolved "Uuid", ["Visit.id"]⟩ := by cbv
  obtain ⟨turns, passed, last, hfirst, htrail, hlength, hflaw⟩ :=
    (refused_iff_first_offense (coherent_family [4, 0]) _).1 hrefused
  exact ⟨turns, passed, last, hfirst, htrail, hlength.symm, hflaw⟩

end Graph

end TypeSchema
