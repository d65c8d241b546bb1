import TypeSchema.Proofs.Descriptor.Coherence

/-!
# Trails

A trail is a way down from a type, with all that can be said of it: the position of the part that is
taken at each type, the texts that name the steps, the types that are passed, and the type at the end.
The positions alone fix the rest.

Depth-first order from left to right is the order of the positions: a trail comes before those that go
on from its end, and of two trails that part, the one that takes the earlier part comes first. This is
`List.Lex`, and `IsFirst` names the first trail on which something is met. A search that looks at a
type before its parts, and at the parts in turn, finds that trail: `isFirst_nil` and `IsFirst.cons` are
the two ways in which it does.

`Finds` says that a result is right for such a search: a success means that nothing is met on any trail,
and an error reports the end of the first trail on which something is. By `Finds.eq_error_iff` the
errors are then known, since a first trail leaves nothing to choose.
-/

namespace TypeSchema.Graph

variable {Ref : Type} (g : Graph Ref)

/-! ### Ways down, step by step -/

/-- The way from a type that takes the parts at the given positions: the texts that name its steps, the
types it passes, the outermost first, and the type it ends at. -/
inductive Trail : Ref → List Nat → List String → List Ref → Ref → Prop where
  /-- The way that stays where it is. -/
  | here (r : Ref) : Trail r [] [] [] r
  /-- The way that goes down to a part and on from there. -/
  | down {r s last : Ref} {position : Nat} {segment : String} {turns : List Nat}
      {segments : List String} {passed : List Ref}
      (hstep : (g.branches r)[position]? = some (segment, s))
      (hrest : Trail s turns segments passed last) :
      Trail r (position :: turns) (segment :: segments) (r :: passed) last

variable {g}

/-- The step at a position leads to the part there. -/
theorem getElem?_parts {r s : Ref} {position : Nat} {segment : String}
    (h : (g.branches r)[position]? = some (segment, s)) : (g.parts r)[position]? = some s := by
  rw [← map_snd_branches, List.getElem?_map, h]
  rfl

/-- To the part at a position there is a step. -/
theorem exists_branch {r s : Ref} {position : Nat} (h : (g.parts r)[position]? = some s) :
    ∃ segment, (g.branches r)[position]? = some (segment, s) := by
  rw [← map_snd_branches, List.getElem?_map, Option.map_eq_some_iff] at h
  obtain ⟨⟨segment, t⟩, hstep, rfl⟩ := h
  exact ⟨segment, hstep⟩

/-- **The positions fix the trail.** -/
theorem Trail.unique {r last last' : Ref} {turns : List Nat} {segments segments' : List String}
    {passed passed' : List Ref} (h : g.Trail r turns segments passed last)
    (h' : g.Trail r turns segments' passed' last') :
    segments = segments' ∧ passed = passed' ∧ last = last' := by
  induction h generalizing segments' passed' with
  | here r =>
    cases h'
    exact ⟨rfl, rfl, rfl⟩
  | down hstep _ ih =>
    cases h' with
    | down hstep' hrest' =>
      rw [hstep, Option.some.injEq, Prod.mk.injEq] at hstep'
      obtain ⟨rfl, rfl⟩ := hstep'
      obtain ⟨rfl, rfl, rfl⟩ := ih hrest'
      exact ⟨rfl, rfl, rfl⟩

/-- A trail names each of its steps, and passes a type at each. -/
theorem Trail.lengths {r last : Ref} {turns : List Nat} {segments : List String} {passed : List Ref}
    (h : g.Trail r turns segments passed last) :
    segments.length = turns.length ∧ passed.length = turns.length := by
  induction h with
  | here r => exact ⟨rfl, rfl⟩
  | down _ _ ih => exact ⟨congrArg Nat.succ ih.1, congrArg Nat.succ ih.2⟩

/-! ### What is met on a trail -/

/-- Does the trail with the given turns end at a type with the property? The property may speak of the
types passed on the way, and `above` are types passed before, so that the rest of a trail can be
spoken of. -/
def Meets (g : Graph Ref) (P : List Ref → Ref → Prop) (above : List Ref) (r : Ref)
    (turns : List Nat) : Prop :=
  ∃ segments passed last, g.Trail r turns segments passed last ∧ P (above ++ passed) last

/-- Does no trail end at a type with the property? -/
def Clear (g : Graph Ref) (P : List Ref → Ref → Prop) (above : List Ref) (r : Ref) : Prop :=
  ∀ turns, ¬ g.Meets P above r turns

/-- Is this the first of the trails that end at a type with the property? -/
structure IsFirst (g : Graph Ref) (P : List Ref → Ref → Prop) (above : List Ref) (r : Ref)
    (turns : List Nat) : Prop where
  /-- It is one of them. -/
  meets : g.Meets P above r turns
  /-- All others come later. -/
  least : ∀ other, g.Meets P above r other → other = turns ∨ List.Lex (· < ·) turns other

section

variable {P : List Ref → Ref → Prop} {above : List Ref} {r s : Ref}

/-- A trail without turns meets what is at its start. -/
@[simp] theorem meets_nil_iff : g.Meets P above r [] ↔ P above r := by
  constructor
  · rintro ⟨segments, passed, last, htrail, hP⟩
    cases htrail
    rwa [List.append_nil] at hP
  · intro hP
    exact ⟨[], [], r, .here r, by rwa [List.append_nil]⟩

/-- A trail meets what the rest of it meets after its first turn. -/
@[simp] theorem meets_cons_iff {position : Nat} {turns : List Nat} :
    g.Meets P above r (position :: turns) ↔
      ∃ s, (g.parts r)[position]? = some s ∧ g.Meets P (above ++ [r]) s turns := by
  constructor
  · rintro ⟨segments, passed, last, htrail, hP⟩
    cases htrail with
    | down hstep hrest =>
      rw [List.append_cons] at hP
      exact ⟨_, getElem?_parts hstep, _, _, _, hrest, hP⟩
  · rintro ⟨s, hs, segments, passed, last, hrest, hP⟩
    obtain ⟨segment, hstep⟩ := exists_branch hs
    rw [← List.append_cons] at hP
    exact ⟨_, _, _, .down hstep hrest, hP⟩

/-- Nothing is met from a type if the type has not the property and nothing is met from its parts. -/
theorem clear_of_parts (hnot : ¬ P above r)
    (hparts : ∀ s ∈ g.parts r, g.Clear P (above ++ [r]) s) : g.Clear P above r := by
  intro turns hmeets
  cases turns with
  | nil => exact hnot (meets_nil_iff.1 hmeets)
  | cons position turns =>
    obtain ⟨s, hs, hrest⟩ := meets_cons_iff.1 hmeets
    exact hparts s (List.mem_of_getElem? hs) turns hrest

/-- A type with the property comes before everything below it. -/
theorem isFirst_nil (h : P above r) : g.IsFirst P above r [] := by
  refine ⟨meets_nil_iff.2 h, fun other _ => ?_⟩
  cases other with
  | nil => exact .inl rfl
  | cons position turns => exact .inr .nil

/-- **The search goes on at the parts**, and finds what is first below the first part below which there
is anything to be found. -/
theorem IsFirst.cons {position : Nat} {turns : List Nat} (h : g.IsFirst P (above ++ [r]) s turns)
    (hnot : ¬ P above r) (hs : (g.parts r)[position]? = some s)
    (hbefore : ∀ earlier < position, ∀ t, (g.parts r)[earlier]? = some t →
      g.Clear P (above ++ [r]) t) :
    g.IsFirst P above r (position :: turns) := by
  refine ⟨meets_cons_iff.2 ⟨s, hs, h.meets⟩, fun other hother => ?_⟩
  cases other with
  | nil => exact absurd (meets_nil_iff.1 hother) hnot
  | cons taken rest =>
    obtain ⟨t, ht, hrest⟩ := meets_cons_iff.1 hother
    rcases Nat.lt_trichotomy taken position with hearlier | rfl | hlater
    · exact absurd hrest (hbefore taken hearlier t ht rest)
    · rw [hs, Option.some.injEq] at ht
      subst ht
      rcases h.least rest hrest with rfl | hlex
      · exact .inl rfl
      · exact .inr (.cons hlex)
    · exact .inr (.rel hlater)

/-- There is one first trail. -/
theorem IsFirst.unique {turns turns' : List Nat} (h : g.IsFirst P above r turns)
    (h' : g.IsFirst P above r turns') : turns = turns' := by
  rcases h.least turns' h'.meets with rfl | hlex
  · rfl
  · rcases h'.least turns h.meets with rfl | hlex'
    · rfl
    · exact absurd hlex' (List.lt_asymm hlex)

end

/-! ### What a search reports -/

section

variable {Error α : Type} {P : List Ref → Ref → Prop}
  {D : List String → List Ref → Ref → Error → Prop} {above : List Ref} {r s : Ref} {e e' : Error}

/-- Does the error describe the end of the first trail that ends at a type with the property? The
description `D` is of the texts that name the steps, the types above the end, and the end itself. -/
def Reports (g : Graph Ref) (P : List Ref → Ref → Prop)
    (D : List String → List Ref → Ref → Error → Prop) (above : List Ref) (r : Ref) (e : Error) : Prop :=
  ∃ turns segments passed last, g.IsFirst P above r turns ∧ g.Trail r turns segments passed last ∧
    D segments (above ++ passed) last e

/-- Is this the result of a search for the property? -/
structure Finds (g : Graph Ref) (P : List Ref → Ref → Prop)
    (D : List String → List Ref → Ref → Error → Prop) (above : List Ref) (r : Ref)
    (result : Except Error α) : Prop where
  /-- A success means that there is nothing to be found. -/
  clear : ∀ a, result = .ok a → g.Clear P above r
  /-- An error is the report of what is first. -/
  reports : ∀ e, result = .error e → g.Reports P D above r e

/-- A type with the property is reported where it stands. -/
theorem reports_nil (hP : P above r) (hD : D [] above r e) : g.Reports P D above r e :=
  ⟨[], [], [], r, isFirst_nil hP, .here r, by rwa [List.append_nil]⟩

/-- What is reported below a part is reported below the type, with the step to the part. -/
theorem Reports.cons {position : Nat} {segment : String} (h : g.Reports P D (above ++ [r]) s e)
    (hnot : ¬ P above r) (hstep : (g.branches r)[position]? = some (segment, s))
    (hbefore : ∀ earlier < position, ∀ t, (g.parts r)[earlier]? = some t →
      g.Clear P (above ++ [r]) t)
    (hD : ∀ segments passed last, D segments passed last e → D (segment :: segments) passed last e') :
    g.Reports P D above r e' := by
  obtain ⟨turns, segments, passed, last, hfirst, htrail, hdescribes⟩ := h
  rw [← List.append_cons] at hdescribes
  exact ⟨position :: turns, segment :: segments, r :: passed, last,
    hfirst.cons hnot (getElem?_parts hstep) hbefore, .down hstep htrail, hD _ _ _ hdescribes⟩

/-- If a description fits one error only, there is one report at most. -/
theorem Reports.unique (h : g.Reports P D above r e) (h' : g.Reports P D above r e')
    (hD : ∀ segments passed last, D segments passed last e → D segments passed last e' → e = e') :
    e = e' := by
  obtain ⟨turns, segments, passed, last, hfirst, htrail, hdescribes⟩ := h
  obtain ⟨turns', segments', passed', last', hfirst', htrail', hdescribes'⟩ := h'
  obtain rfl := hfirst.unique hfirst'
  obtain ⟨rfl, rfl, rfl⟩ := htrail.unique htrail'
  exact hD _ _ _ hdescribes hdescribes'

/-- **The errors of a search** are what there is to be reported. -/
theorem Finds.eq_error_iff {result : Except Error α} (h : g.Finds P D above r result)
    (hD : ∀ segments passed last e e', D segments passed last e → D segments passed last e' → e = e') :
    result = .error e ↔ g.Reports P D above r e := by
  refine ⟨h.reports e, fun hreports => ?_⟩
  cases hresult : result with
  | ok a =>
    obtain ⟨turns, -, -, -, hfirst, -⟩ := hreports
    exact absurd hfirst.meets (h.clear a hresult turns)
  | error other =>
    have hother : g.Reports P D above r other := h.reports other hresult
    rw [hother.unique hreports fun segments passed last => hD segments passed last other e]

end

end TypeSchema.Graph
