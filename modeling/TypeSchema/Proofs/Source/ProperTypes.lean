import TypeSchema.Proofs.Source.Ensures
import TypeSchema.Source.Grammar

/-!
# The types that the grammar gives

Every type that is read from the tokens of a text is proper: what the last segment of a path is called
is a name, and a type that is kept as it is written cannot be taken for a name. The second is seen
from the first two tokens. Which these are is decided where the form of the type is, and whatever the
grammar reads after them **only adds to them**.

* `Path.IsProper` and `TypeForm.IsProper` say what is known before the tokens of the type are.
* `ensures_path`, `ensures_pathType` and `ensures_typeForm` go up from the segments of a path to types.
* `Rules.IsProper` is what the rules ask of each other. `isProper_build`: it holds at every depth.
-/

namespace TypeSchema.Source

/-- Are the types proper, and are the bounds not empty? A bound that is a lifetime is seen to be one. -/
structure Rules.IsProper (rules : Rules) : Prop where
  /-- Types are proper. -/
  type : ∀ sum s, (rules.type sum).Ensures s fun t _ => t.IsProper
  /-- Something is written for a bound, and for a lifetime what is no name. -/
  bound : ∀ capturing s, (rules.bound capturing).Ensures s fun _ after =>
    s.Grows after ∧ (startsLifetime s.rest = true → s.Marks after)

namespace Grammar

open TypeSchema.Source.Parser

variable {rules : Rules} {s : ParseState}

/-! ### Arguments of paths -/

/-- An argument in angle brackets is proper. -/
theorem ensures_genericArgument (hrules : rules.IsProper) (s : ParseState) :
    (genericArgument rules).Ensures s fun r _ => r.2.IsProper := by
  unfold genericArgument
  refine .peek ?_
  split
  · exact .seq fun _ _ _ => .pure .other
  refine .peek ?_
  split
  · exact .seq fun ⟨_, tokens⟩ _ _ => .pure (.constant tokens)
  refine .bind (hrules.type true s) fun type _ _ htype => ?_
  split
  · refine .seq fun found _ _ => ?_
    split
    · exact .pure .other
    · exact .pure (.type htype)
  · exact .pure (.type htype)

/-- What every part of a list in angle brackets has, all have; and the brackets are written. -/
theorem ensures_angleList {α : Type} {part : Parser (Bool × α)} {P : α → Prop}
    (hpart : ∀ s, part.Ensures s fun r _ => P r.2) :
    (angleList part).Ensures s fun as after => (∀ a ∈ as, P a) ∧ s.Grows after := by
  unfold angleList
  refine .bind (P := fun r _ => ∀ part ∈ r.1, P part.2.1) (ensures_aside ?_)
    fun ⟨parts, tokens⟩ t h hparts => ?_
  · refine .seq fun _ t _ => .bind (P := fun parts _ => ∀ part ∈ parts, P part.2.1) ?_
      fun parts _ _ hparts => .seq fun _ _ _ => .pure hparts
    refine .iterate (I := fun read _ => ∀ part ∈ read, P part.2.1) (fun read t hread => ?_)
      (List.forall_mem_nil _)
    refine .peek ?_
    split
    · exact .pure fun part h => hread part (List.mem_reverse.1 h)
    refine .bind (P := fun r _ => P r.1.2) (ensures_aside ((hpart _).mono fun _ _ _ h => h))
      fun ⟨⟨isLifetime, a⟩, tokens⟩ t _ ha => .peek ?_
    have hmore : ∀ comma, ∀ part ∈ (isLifetime, a, tokens, comma) :: read, P part.2.1 :=
      fun _ => List.forall_mem_cons.2 ⟨ha, hread⟩
    split
    · exact .pure fun part h => hmore false part (List.mem_reverse.1 h)
    · exact .seq fun _ _ _ => .pure (hmore true)
  · exact .bind (ensures_write (List.cons_ne_nil _ _)) fun _ _ _ hgrows =>
      .pure ⟨List.forall_mem_map.2 hparts, h.trans_grows hgrows⟩

/-! ### Paths -/

/-- Are the arguments of a segment proper? Where there are some in angle brackets, what is written must
not be taken for a name. -/
def PathArguments.IsProper (marked : Prop) : PathArguments → Prop
  | .none => True
  | .angle arguments => (∀ a ∈ arguments, a.IsProper) ∧ marked
  | .parenthesized => True

/-- Is the last segment of a path proper? -/
structure Path.IsProper (marked : Prop) (path : Path) : Prop where
  /-- It is called by a name. -/
  last : IsName path.last.name
  /-- So are its arguments. -/
  arguments : path.arguments.IsProper marked

/-- Arguments that are proper under one condition are proper under a weaker one. -/
theorem PathArguments.IsProper.mono {marked marked' : Prop} {arguments : PathArguments}
    (h : arguments.IsProper marked) (himp : marked → marked') : arguments.IsProper marked' := by
  cases arguments with
  | none | parenthesized => trivial
  | angle arguments => exact ⟨h.1, himp h.2⟩

/-- So is a path. -/
theorem Path.IsProper.mono {marked marked' : Prop} {path : Path} (h : path.IsProper marked)
    (himp : marked → marked') : path.IsProper marked' := ⟨h.last, h.arguments.mono himp⟩

/-- A segment begins with a word, and its arguments stand after that. -/
theorem ensures_pathSegment (hrules : rules.IsProper) (inExpression : Bool) :
    (pathSegment rules inExpression).Ensures s fun r after =>
      IsName r.1.name ∧ r.2.IsProper (s.Marks after) ∧ s.Begins after := by
  unfold pathSegment
  refine .peek ?_
  split
  · next hword =>
    exact .bind (ensures_anyWord_of_startsOneOf (by decide) hword) fun id _ _ ⟨hname, hbegins⟩ =>
      .pure ⟨hname, trivial, hbegins⟩
  refine .peek ?_
  extract_lets afterName
  have hafter : ∀ id t, IsName id.name → s.Begins t → (afterName id).Ensures t fun r after =>
      IsName r.1.name ∧ r.2.IsProper (s.Marks after) ∧ s.Begins after := by
    intro id t hname hbegins
    refine .peek (.peek ?_)
    split
    · refine .seq fun _ u h => .bind (ensures_angleList fun t => ensures_genericArgument hrules t)
        fun as after h' ⟨has, hgrows⟩ => .pure ?_
      have hbegins' := hbegins.trans h
      exact ⟨hname, ⟨has, hbegins'.marks h' hgrows⟩, hbegins'.trans h'⟩
    · exact .pure ⟨hname, trivial, hbegins⟩
  split
  · next hself =>
    exact .bind (ensures_anyWord_of_startsWord (by decide) hself) fun id t _ ⟨hname, hbegins⟩ =>
      hafter id t hname hbegins
  · exact .bind ensures_name fun id t _ ⟨hname, hbegins⟩ => hafter id t hname hbegins

/-- More segments keep a path proper. -/
theorem ensures_pathRest (hrules : rules.IsProper) (inExpression : Bool) {path : Path}
    {t : ParseState} (hbegins : s.Begins t) (hpath : path.IsProper (s.Marks t)) :
    (pathRest rules inExpression path).Ensures t fun path after => path.IsProper (s.Marks after) := by
  refine .iterate (I := fun path t => s.Begins t ∧ path.IsProper (s.Marks t))
    (fun path t ⟨hbegins, hpath⟩ => ?_) ⟨hbegins, hpath⟩
  refine .peek ?_
  split
  · refine .bind (ensures_operator rfl (by decide)) fun _ u h ⟨hcolon, _⟩ =>
      .bind (ensures_pathSegment hrules inExpression) fun ⟨last, arguments⟩ after h' hsegment => .pure ?_
    have hmarks : s.Marks after := (hbegins.marks h hcolon.grows).trans h'
    exact ⟨(hbegins.trans h).trans h', hsegment.1, hsegment.2.1.mono fun _ => hmarks⟩
  · exact .pure hpath

/-- **A path** begins with a word or a colon, and its last segment is proper. -/
theorem ensures_path (hrules : rules.IsProper) (inExpression : Bool) :
    (path rules inExpression).Ensures s fun path after =>
      s.Begins after ∧ path.IsProper (s.Marks after) := by
  refine .bind (ensures_operator? rfl (by decide)) fun rooted t h ⟨hrooted, hnot⟩ =>
    .bind (ensures_pathSegment hrules inExpression)
      fun ⟨last, arguments⟩ u h' ⟨hname, harguments, hbegins⟩ => ?_
  have hstart : s.Begins u ∧ arguments.IsProper (s.Marks u) := by
    cases rooted with
    | true => exact ⟨(hrooted rfl).1.trans h', harguments.mono fun _ => (hrooted rfl).2.trans h'⟩
    | false =>
      obtain rfl := (hnot rfl).1
      exact ⟨hbegins, harguments⟩
  exact (ensures_pathRest hrules inExpression hstart.1 ⟨hname, hstart.2⟩).mono
    fun _ _ h hpath => ⟨hstart.1.trans h, hpath⟩

/-- A path that may start in a type: then it begins with an angle bracket. -/
theorem ensures_qualifiedPath (hrules : rules.IsProper) (inExpression : Bool) :
    (qualifiedPath rules inExpression).Ensures s fun r after => s.Begins after ∧
      (r.1 = true → s.Marks after) ∧ (r.1 = false → r.2.IsProper (s.Marks after)) := by
  unfold qualifiedPath
  refine .peek ?_
  split
  · refine .bind (ensures_operator rfl (by decide)) fun _ t _ ⟨hbegins, hmarks⟩ => ?_
    have hend : ∀ (path : Path) after, t.Precedes after → s.Begins after ∧ ((true, path).1 = true →
        s.Marks after) ∧ ((true, path).1 = false → path.IsProper (s.Marks after)) :=
      fun _ _ h => ⟨hbegins.trans h, fun _ => hmarks.trans h, nofun⟩
    refine .seq fun _ t₁ h₁ => .seq fun _ t₂ h₂ => ?_
    extract_lets start afterTrait
    have hafter : ∀ u t₃, t₂.Precedes t₃ → (afterTrait u).Ensures t₃ fun r after => s.Begins after ∧
        (r.1 = true → s.Marks after) ∧ (r.1 = false → r.2.IsProper (s.Marks after)) :=
      fun u t₃ h₃ => .seq fun _ t₄ h₄ => .seq fun _ t₅ h₅ => .seq fun path t₆ h₆ =>
        .pure (hend path t₆ (by grind))
    split
    · exact .seq fun v t₃ h₃ => hafter v t₃ h₃
    · exact hafter () t₂ (.refl t₂)
  · exact .bind (ensures_path hrules inExpression) fun path _ _ ⟨hbegins, hpath⟩ =>
      .pure ⟨hbegins, nofun, fun _ => hpath⟩

/-- So it is with the path of a type, whatever arguments in parentheses it has. -/
theorem ensures_typePath (hrules : rules.IsProper) :
    (typePath rules).Ensures s fun r after => s.Begins after ∧
      (r.1 = true → s.Marks after) ∧ (r.1 = false → r.2.IsProper (s.Marks after)) := by
  refine .bind (ensures_qualifiedPath hrules false) fun ⟨qualified, path⟩ t _ hpath =>
    .bind ?_ fun path after _ hpath => .pure hpath
  -- What a path is called does not change with its arguments.
  refine .iterate (I := fun path t => s.Begins t ∧ (qualified = true → s.Marks t) ∧
    (qualified = false → path.IsProper (s.Marks t))) (fun path t ⟨hbegins, hmarks, hpath⟩ => ?_) hpath
  refine .peek ?_
  split
  · refine .seq fun output u h => ?_
    extract_lets called
    have hbegins' := hbegins.trans h
    have hmarks' : qualified = true → s.Marks u := fun hq => (hmarks hq).trans h
    have hcalled : qualified = false → called.IsProper (s.Marks u) := fun hq =>
      ⟨(hpath hq).last, trivial⟩
    have hrest : (pathRest rules false called).Ensures u fun path after =>
        qualified = false → path.IsProper (s.Marks after) := by
      cases qualified with
      | true => exact .of_forall fun _ _ _ => nofun
      | false => exact (ensures_pathRest hrules false hbegins' (hcalled rfl)).mono fun _ _ _ h _ => h
    split
    · exact .bind hrest fun path after h' hpath =>
        .pure ⟨hbegins'.trans h', fun hq => (hmarks' hq).trans h', hpath⟩
    · exact .bind hrest fun path after h' hpath =>
        .pure ⟨hbegins'.trans h', fun hq => (hmarks' hq).trans h', hpath⟩
    · exact .pure ⟨hbegins', hmarks', hcalled⟩
  · exact .pure ⟨hbegins, hmarks, hpath⟩

/-! ### Bounds -/

/-- If a type or a bound is said to hold for parameters, the word for that and what follows it are
written. -/
theorem ensures_forParameters :
    (forParameters rules).Ensures s fun b after =>
      (b = true → s.Marks after) ∧ (b = false → after = s) := by
  have hlist : ∀ {part : Parser (Bool × Unit)} {t : ParseState},
      (angleList part).Ensures t fun _ after => t.Grows after := fun {_ _} =>
    (ensures_angleList (P := fun _ => True) fun _ => .of_forall fun _ _ _ => trivial).mono
      fun _ _ _ h => h.2
  refine .ite ensures_word? (fun t _ ⟨_, hbegins⟩ => ?_) fun _ => .pure ⟨nofun, fun _ => rfl⟩
  exact .bind (.discard hlist) fun _ after h hgrows =>
    .pure ⟨fun _ => hbegins.marks h hgrows, nofun⟩

/-- A trait has a name at least. -/
theorem ensures_traitBound (hrules : rules.IsProper) :
    (traitBound rules).Ensures s fun _ after => s.Grows after := by
  unfold traitBound
  refine .seq fun _ t h => .peek ?_
  extract_lets afterFor afterConst
  have hpath : ∀ v u, s.Precedes u → (afterFor v).Ensures u fun _ after => s.Grows after :=
    fun v u h => .bind (ensures_path hrules false) fun path t _ ⟨hbegins, _⟩ =>
      .peek (.of_forall fun _ _ h' => (h.trans_grows hbegins.grows).trans_precedes h')
  have hafter : ∀ v u, s.Precedes u → (afterConst v).Ensures u fun _ after => s.Grows after := by
    intro v u h
    refine .seq fun _ u₁ h₁ => ?_
    split
    · exact .seq fun v u₂ h₂ => hpath v u₂ (by grind)
    · exact hpath () u₁ (h.trans h₁)
  split
  · exact .seq fun v u h' => hafter v u (h.trans h')
  refine .seq fun _ t₁ h₁ => ?_
  split
  · exact .seq fun v u h' => hafter v u (by grind)
  · exact .seq fun v u h' => hafter v u (by grind)

/-- **A bound** is not empty, and one that is a lifetime cannot be taken for a name. -/
theorem ensures_bound (hrules : rules.IsProper) (capturing : Bool) :
    (bound rules capturing).Ensures s fun _ after =>
      s.Grows after ∧ (startsLifetime s.rest = true → s.Marks after) := by
  unfold bound
  refine .ite ensures_lifetime? (fun _ _ ⟨hbegins, hmarks⟩ => .pure ⟨hbegins.grows, fun _ => hmarks⟩)
    fun hlifetime => ?_
  have hgrown : ∀ {after : ParseState}, s.Grows after →
      s.Grows after ∧ (startsLifetime s.rest = true → s.Marks after) := fun hgrows =>
    ⟨hgrows, fun h => absurd h (hlifetime ▸ Bool.false_ne_true)⟩
  refine .peek ?_
  split
  · refine .ensure fun _ => .bind ?_ fun _ _ _ hgrows => .pure (hgrown hgrows)
    exact .bind ensures_word fun _ u _ ⟨_, hbegins⟩ =>
      .of_forall fun _ _ h => hbegins.grows.trans_precedes h
  refine .peek ?_
  extract_lets afterTrait
  have hafter : ∀ v t, s.Grows t → (afterTrait v).Ensures t fun _ after =>
      s.Grows after ∧ (startsLifetime s.rest = true → s.Marks after) :=
    fun v t hgrows => .pure (hgrown hgrows)
  split
  · exact .bind (ensures_group (R := fun _ => True) fun _ => .of_forall fun _ _ _ => trivial)
      fun v t _ ⟨_, hmarks⟩ => hafter v t hmarks.grows
  · exact .bind (ensures_traitBound hrules) fun v t _ hgrows => hafter v t hgrows

/-- So it is with several bounds, of which the first is written first. -/
theorem ensures_bounds (hrules : rules.IsProper) (sum capturing : Bool) :
    (bounds rules sum capturing).Ensures s fun _ after =>
      s.Grows after ∧ (startsLifetime s.rest = true → s.Marks after) := by
  refine .iterate_first (I := fun after => s.Grows after ∧ (startsLifetime s.rest = true →
    s.Marks after)) ?_ fun t u h ⟨hgrows, hmarks⟩ =>
      ⟨hgrows.trans_precedes h, fun hlifetime => (hmarks hlifetime).trans h⟩
  exact .bind (hrules.bound capturing s) fun isTrait t _ ⟨hgrows, hmarks⟩ => .of_forall fun _ _ h =>
    ⟨hgrows.trans_precedes h, fun hlifetime => (hmarks hlifetime).trans h⟩

/-! ### Forms of types -/

/-- Is a type of the form proper, if the tokens of the type are marked as no name? -/
def TypeForm.IsProper (marked : Prop) : TypeForm → Prop
  | .path last arguments _ =>
    IsName last.name ∧ (∀ a ∈ arguments, a.IsProper) ∧ (arguments ≠ [] → marked)
  | .reference t | .parenthesized t | .slice t | .array t => t.IsProper
  | .bound | .other => marked

/-- A form that is proper under one condition is proper under a weaker one. -/
theorem TypeForm.IsProper.mono {marked marked' : Prop} {form : TypeForm} (h : form.IsProper marked)
    (himp : marked → marked') : form.IsProper marked' := by
  cases form with
  | path => exact ⟨h.1, h.2.1, fun hne => himp (h.2.2 hne)⟩
  | reference | parenthesized | slice | array => exact h
  | bound | other => exact himp h

/-- A proper form and tokens that cannot be taken for a name are a proper type. -/
theorem TypeForm.IsProper.withTokens {form : TypeForm} {tokens : List Token}
    (h : form.IsProper (Token.Unmistakable tokens)) : (form.withTokens tokens).IsProper := by
  cases form with
  | path => exact .path _ h.1 h.2.1 h.2.2
  | reference => exact .reference h
  | parenthesized => exact .parenthesized h
  | slice => exact .slice h
  | array => exact .array h
  | bound => exact .bound h
  | other => exact .other h

/-- **Where the first tokens of a type are marked**, only the types in it remain to be looked at. -/
theorem ensures_of_marks {p : Parser TypeForm} {t : ParseState} (hmarks : s.Marks t)
    (h : p.Ensures t fun form _ => form.IsProper True) :
    p.Ensures t fun form after => form.IsProper (s.Marks after) :=
  h.mono fun _ _ hprecedes hform => hform.mono fun _ => hmarks.trans hprecedes

/-- A path, or what begins with one. It need not be marked where a word for parameters was before. -/
theorem ensures_pathType (hrules : rules.IsProper) (forAll sum : Bool) :
    (pathType rules forAll sum).Ensures s fun form after =>
      form.IsProper (forAll = true ∨ s.Marks after) := by
  refine .bind (ensures_typePath hrules) fun ⟨qualified, path⟩ t _ ⟨hbegins, hmarks, hpath⟩ => ?_
  dsimp only
  split
  · next hqualified => exact .pure (.inr (hmarks hqualified))
  next hplain =>
  obtain ⟨hname, harguments⟩ := hpath (Bool.not_eq_true _ ▸ hplain)
  have hoperator : ∀ {op : String} {c : Char} {more : List Char}, op.toList = c :: more →
      Text.isIdentifierContinue c = false → (operator op).Ensures t fun _ after => s.Marks after :=
    fun hop hchar => (ensures_operator hop hchar).mono fun _ _ h hcolon =>
      hbegins.marks h hcolon.1.grows
  refine .peek ?_
  split
  · -- A macro call.
    exact .bind (hoperator rfl (by decide)) fun _ u _ hmarks => .seq fun _ _ h =>
      .pure (.inr (hmarks.trans h))
  refine .peek ?_
  split
  · -- A sum of bounds.
    refine .bind (hoperator rfl (by decide)) fun _ u _ hmarks => .peek ?_
    split
    · exact .seq fun _ _ h => .pure (.inr (hmarks.trans h))
    · exact .pure (.inr hmarks)
  split
  · next hforAll => exact .pure (.inl hforAll)
  split
  · next arguments heq =>
    rw [heq] at harguments
    exact .pure ⟨hname, harguments.1, fun _ => .inr harguments.2⟩
  · exact .pure ⟨hname, List.forall_mem_nil _, fun hne => absurd rfl hne⟩
  · exact .pure ⟨hname, List.forall_mem_nil _, fun hne => absurd rfl hne⟩

/-- Is the type proper, if it is one type that stands between the parentheses? -/
def Parenthesized.IsProper : Parenthesized → Prop
  | .one t => t.IsProper
  | .relaxed | .several => True

/-- If one type stands between the parentheses, it is proper. -/
theorem ensures_parenthesizedTypes (hrules : rules.IsProper) (s : ParseState) :
    (parenthesizedTypes rules).Ensures s fun r _ => r.IsProper := by
  unfold parenthesizedTypes
  refine .peek ?_
  split
  · exact .pure trivial
  refine .peek ?_
  split
  · next hlifetime =>
    refine .bind (ensures_capture (R := fun r => Token.Unmistakable r.2) ?_)
      fun ⟨⟨_, _⟩, tokens⟩ _ _ htokens => .ensure fun _ => .pure (.other htokens)
    exact (ensures_bounds hrules true false).mono fun _ _ _ ⟨_, hmarks⟩ =>
      (hmarks hlifetime).unmistakable rfl
  refine .peek ?_
  split
  · exact .seq fun _ _ _ => .pure trivial
  refine .bind (hrules.type true _) fun type _ _ htype => .peek ?_
  split
  · exact .seq fun _ _ _ => .seq fun _ _ _ => .pure trivial
  · exact .pure htype

/-- Types in parentheses are marked by these. -/
theorem ensures_parenthesizedType (hrules : rules.IsProper) (sum : Bool) :
    (parenthesizedType rules sum).Ensures s fun form after => form.IsProper (s.Marks after) := by
  refine .bind (ensures_group (R := Parenthesized.IsProper) (ensures_parenthesizedTypes hrules))
    fun inner t _ ⟨hinner, hmarks⟩ => ensures_of_marks hmarks ?_
  cases inner with
  | several => exact .pure trivial
  | relaxed =>
    refine .peek (.seq fun _ _ _ => ?_)
    split <;> exact .pure trivial
  | one type =>
    refine .peek ?_
    split
    · split
      · exact .seq fun _ _ _ => .pure trivial
      · exact .seq fun _ _ _ => .pure trivial
      · exact .pure hinner
    · exact .pure hinner

/-- The word for a convention is written first, if it stands there. -/
theorem ensures_callConvention :
    callConvention.Ensures s fun _ after => after = s ∨ s.Begins after := by
  refine .ite ensures_word? (fun t _ ⟨_, hbegins⟩ => .peek ?_) fun _ => .pure (.inl rfl)
  split
  · exact .seq fun _ _ h => .pure (.inr (hbegins.trans h))
  · exact .pure (.inr hbegins)

/-- A function type is marked by the words before its arguments, and these. -/
theorem ensures_functionType : (functionType rules).Ensures s fun _ after => s.Marks after := by
  have hsafety : (word? "unsafe").Ensures s fun _ after => after = s ∨ s.Begins after :=
    ensures_word?.mono fun found t _ ⟨hfound, hnot⟩ => by
      cases found with
      | true => exact .inr (hfound rfl).2
      | false => exact .inl (hnot rfl).1
  refine .bind (P := fun _ t => t = s ∨ s.Begins t) (.discard hsafety) fun _ t _ ht =>
    .bind (P := fun _ u => u = t ∨ t.Begins u) (.discard ensures_callConvention) fun _ u h hu =>
      .bind ensures_word fun _ v h' ⟨_, hword⟩ => ?_
  -- Whichever of the three words stands first, it is written first.
  have hbegins : s.Begins v := by
    obtain rfl | ht := ht
    · obtain rfl | hu := hu
      · exact hword
      · exact hu.trans h'
    · exact (ht.trans h).trans h'
  refine .bind (ensures_group (R := fun _ => True) fun _ => .of_forall fun _ _ _ => trivial)
    fun _ w hw ⟨_, harguments⟩ => .of_forall fun _ _ h => ?_
  exact (hbegins.marks hw harguments.grows).trans h

/-- A slice or an array is proper. -/
theorem ensures_bracketedType (hrules : rules.IsProper) (s : ParseState) :
    (bracketedType rules).Ensures s fun form _ => form.IsProper True := by
  refine .bind (hrules.type true s) fun item _ _ hitem => .seq fun found _ _ => ?_
  split
  · exact .seq fun _ _ _ => .pure hitem
  · exact .pure hitem

/-- A type with a word, a sign or a bracket of its own is marked by that. -/
theorem ensures_markedType (hrules : rules.IsProper) (sum : Bool) :
    (markedType rules sum).Ensures s fun form after => form.IsProper (s.Marks after) := by
  have hbounds : ∀ {t : ParseState} {sum capturing : Bool}, s.Begins t →
      (bounds rules sum capturing >>= fun r => ensure r.2 >>= fun _ =>
        (pure .other : Parser TypeForm)).Ensures t fun form after => form.IsProper (s.Marks after) :=
    fun {_ _ _} hbegins => .bind (ensures_bounds hrules _ _) fun _ _ h hbound => .ensure fun _ =>
      .pure (hbegins.marks h hbound.1)
  unfold markedType
  refine .ite ensures_word? (fun t _ ⟨_, hbegins⟩ => .seq fun _ u h => hbounds (hbegins.trans h))
    fun _ => .peek ?_
  split
  · exact (ensures_group (ensures_bracketedType hrules)).mono
      fun form _ _ ⟨hform, hmarks⟩ => hform.mono fun _ => hmarks
  refine .ite (ensures_operator? rfl (by decide)) (fun t _ ⟨_, hmarks⟩ => ?_) fun _ => ?_
  · refine ensures_of_marks hmarks (.seq fun constant _ _ => ?_)
    extract_lets afterWord
    have hafter : ∀ v t, (afterWord v).Ensures t fun form _ => form.IsProper True :=
      fun v t => .seq fun _ _ _ => .pure trivial
    split
    · exact .seq fun v t _ => hafter v t
    · exact hafter () _
  refine .ite (ensures_operator? rfl (by decide)) (fun t _ ⟨_, hmarks⟩ => ?_) fun _ => ?_
  · exact ensures_of_marks hmarks (.seq fun _ _ _ => .seq fun _ t _ =>
      .bind (hrules.type false t) fun _ _ _ h => .pure h)
  refine .ite (ensures_operator? rfl (by decide)) (fun t _ ⟨_, hmarks⟩ => .pure hmarks) fun _ => ?_
  refine .ite ensures_word? (fun t _ ⟨_, hbegins⟩ => hbounds hbegins) fun _ => ?_
  refine .ite ensures_word? (fun t _ ⟨htaken, _⟩ => .pure ⟨_, .blank [], ?_⟩) fun _ => ?_
  · rw [htaken]
    exact List.suffix_refl _
  refine .peek (.ensure fun hlifetime => ?_)
  refine .bind (ensures_bounds hrules true false) ?_
  rintro ⟨_, hasTrait⟩ _ _ ⟨-, hmarks⟩
  exact .ensure fun _ => .pure (hmarks hlifetime)

/-- **The form of a type** is proper: each form is marked where it is decided on. -/
theorem ensures_typeForm (hrules : rules.IsProper) (sum : Bool) :
    (typeForm rules sum).Ensures s fun form after => form.IsProper (s.Marks after) := by
  unfold typeForm
  refine .bind ensures_forParameters fun forAll t h ⟨hfor, hnot⟩ => ?_
  extract_lets afterFor
  have hafter : ∀ v, (afterFor v).Ensures t fun form after =>
      form.IsProper (forAll = true ∨ t.Marks after) := by
    intro v
    refine .peek ?_
    split
    · exact (ensures_parenthesizedType hrules sum).mono fun _ _ _ h => h.mono .inr
    refine .peek ?_
    split
    · exact .bind ensures_functionType fun _ _ _ hmarks => .pure (.inr hmarks)
    refine .peek ?_
    split
    · exact ensures_pathType hrules forAll sum
    · exact (ensures_markedType hrules sum).mono fun _ _ _ h => h.mono .inr
  -- A word for parameters marks the type by itself; without it, nothing was written yet.
  have hend : ∀ (form : TypeForm) after, t.Precedes after →
      form.IsProper (forAll = true ∨ t.Marks after) → form.IsProper (s.Marks after) := by
    intro form after h hform
    refine hform.mono fun hmarked => ?_
    cases forAll with
    | true => exact (hfor rfl).trans h
    | false =>
      obtain rfl := hnot rfl
      exact hmarked.resolve_left Bool.false_ne_true
  split
  · exact .peek (.ensure fun _ => (hafter ()).mono hend)
  · exact (hafter ()).mono hend

/-- **A type** is proper. -/
theorem ensures_type (hrules : rules.IsProper) (sum : Bool) :
    (type rules sum).Ensures s fun t _ => t.IsProper := by
  refine .bind (ensures_capture (R := fun r => r.1.IsProper (Token.Unmistakable r.2)) ?_)
    fun ⟨form, tokens⟩ _ _ hform => .pure hform.withTokens
  exact (ensures_typeForm hrules sum).mono fun form _ _ hform =>
    hform.mono fun hmarks => hmarks.unmistakable rfl

end Grammar

/-! ### Rules -/

/-- Rules that allow nothing are proper. -/
theorem Rules.isProper_empty : Rules.empty.IsProper where
  type _ _ := .failure
  bound _ _ := .failure

/-- **The rules of the grammar** give proper types, however deep they may be nested. -/
theorem Rules.isProper_build (depth : Nat) : (Rules.build depth).IsProper := by
  induction depth with
  | zero => exact isProper_empty
  | succ depth ih =>
    exact {
      type := fun sum s hs => Grammar.ensures_type ih sum hs
      bound := fun capturing s hs => Grammar.ensures_bound ih capturing hs }

end TypeSchema.Source
