import TypeSchema.Proofs.Source.Meaning
import TypeSchema.Proofs.Source.Parser
import TypeSchema.Proofs.Source.Tokens

/-!
# What parsers ensure

A parser that starts from proper tokens ends, unless it fails, with a result and in a state of which
something is known. A rule for each way in which parsers are put together says how this is found out.

* `ParseState.Begins` and `ParseState.Marks` say what was written first from one state to another. As
  a parser only goes on, **both stay true** while more is written (`Begins.trans`, `Marks.trans`), and
  the first becomes the second (`Begins.marks`).
* `Parser.Ensures` is what is known of the end. `Ensures.bind` goes from one parser to the next, and
  `Ensures.iterate` from an invariant of the steps to the end of a loop.
* The parsers that all others are made of follow, each with what it ensures.
-/

namespace TypeSchema.Source

open Text (isIdentifierContinue)

/-! ### What was written -/

namespace ParseState

/-- Are the tokens that are left such as a text can give? -/
def IsProper (s : ParseState) : Prop := ∀ t ∈ s.rest, t.IsProper

/-- Was something written from one state to another? -/
def Grows (s after : ParseState) : Prop := s.taken.length < after.taken.length

/-- Was a token that is no literal the first to be written from one state to another? -/
def Begins (s after : ParseState) : Prop :=
  ∃ t : Token, t.IsProper ∧ (∀ text, t ≠ .literal text) ∧ t :: s.taken <:+ after.taken

/-- Cannot what was written from one state to another be taken for a name? -/
def Marks (s after : ParseState) : Prop :=
  ∃ tokens, Token.Unmistakable tokens ∧ tokens.reverse ++ s.taken <:+ after.taken

variable {s t u : ParseState}

/-- Tokens that are left were there before. -/
@[grind →] theorem IsProper.of_precedes (hs : s.IsProper) (h : s.Precedes t) : t.IsProper :=
  fun token htoken => hs token (h.rest.mem htoken)

/-- Once something is written, it stays written. -/
@[grind →] theorem Grows.trans_precedes (h : s.Grows t) (h' : t.Precedes u) : s.Grows u :=
  Nat.lt_of_lt_of_le h h'.taken.length_le

/-- What is written later is written from every state before. -/
@[grind →] theorem Precedes.trans_grows (h : s.Precedes t) (h' : t.Grows u) : s.Grows u :=
  Nat.lt_of_le_of_lt h.taken.length_le h'

/-- The first token that was written stays the first one. -/
@[grind →] theorem Begins.trans (h : s.Begins t) (h' : t.Precedes u) : s.Begins u := by
  obtain ⟨token, hproper, hliteral, htaken⟩ := h
  exact ⟨token, hproper, hliteral, htaken.trans h'.taken⟩

/-- A first token is something that was written. -/
@[grind →] theorem Begins.grows (h : s.Begins t) : s.Grows t := by
  obtain ⟨token, -, -, htaken⟩ := h
  exact Nat.lt_of_succ_le htaken.length_le

/-- Tokens that cannot be taken for a name stay at the front of what is written. -/
@[grind →] theorem Marks.trans (h : s.Marks t) (h' : t.Precedes u) : s.Marks u := by
  obtain ⟨tokens, htokens, htaken⟩ := h
  exact ⟨tokens, htokens, htaken.trans h'.taken⟩

/-- It takes at least one token not to be taken for a name. -/
@[grind →] theorem Marks.grows (h : s.Marks t) : s.Grows t := by
  obtain ⟨tokens, htokens, htaken⟩ := h
  have hlength := htaken.length_le
  rw [List.length_append, List.length_reverse] at hlength
  have hpos : 0 < tokens.length := by cases htokens <;> exact Nat.succ_pos _
  exact Nat.lt_of_lt_of_le (Nat.lt_add_of_pos_left hpos) hlength

/-- All that was written cannot be taken for a name if nothing was written before. -/
theorem Marks.unmistakable (h : s.Marks t) (hs : s.taken = []) :
    Token.Unmistakable t.taken.reverse := by
  obtain ⟨tokens, htokens, more, htaken⟩ := h
  rw [← htaken, hs, List.append_nil, List.reverse_append, List.reverse_reverse]
  exact htokens.append more.reverse

/-- A list that ends with another and is longer has one more element before that. -/
theorem exists_cons_suffix {α : Type} {l l' : List α} (h : l <:+ l') (hlength : l.length < l'.length) :
    ∃ a, a :: l <:+ l' := by
  obtain ⟨front, rfl⟩ := h
  have hne : front ≠ [] := by
    rintro rfl
    exact Nat.lt_irrefl _ hlength
  refine ⟨front.getLast hne, front.dropLast, ?_⟩
  rw [← List.singleton_append, ← List.append_assoc, List.dropLast_append_getLast]

/-- **Once something follows the first token**, the two are not taken for a name. -/
theorem Begins.marks (h : s.Begins t) (h' : t.Precedes u) (hgrows : t.Grows u) : s.Marks u := by
  have hlonger := h.grows
  obtain ⟨token, hproper, hliteral, htaken⟩ := h
  cases hproper with
  | word hne hall hraw =>
    have hlength : (Token.word _ _ :: s.taken).length < u.taken.length :=
      Nat.lt_of_le_of_lt htaken.length_le hgrows
    obtain ⟨next, hnext⟩ := exists_cons_suffix (htaken.trans h'.taken) hlength
    exact ⟨[_, next], .words _ hall next [], hnext⟩
  | lifetime name => exact ⟨[_], .lifetime name [], htaken.trans h'.taken⟩
  | punct joint hchar => exact ⟨[_], .punct joint hchar [], htaken.trans h'.taken⟩
  | literal text => exact absurd rfl (hliteral text)
  | group delimiter htokens => exact ⟨[_], .group delimiter _ [], htaken.trans h'.taken⟩

end ParseState

/-! ### Rules -/

namespace Parser

variable {α β : Type} {s : ParseState}

/-- Does a parser that starts from proper tokens end, unless it fails, with a result and in a state
that have a property? -/
def Ensures (p : Parser α) (s : ParseState) (Q : α → ParseState → Prop) : Prop :=
  s.IsProper → ∀ a after, p.run s = some (a, after) → Q a after

variable {p : Parser α} {f : α → Parser β} {P Q : α → ParseState → Prop}
  {R : β → ParseState → Prop}

namespace Ensures

/-- What is known of the end, and that it is an end, may be enough for something else. -/
theorem mono (h : p.Ensures s P) (hQ : ∀ a after, s.Precedes after → P a after → Q a after) :
    p.Ensures s Q :=
  fun hs a after hrun => hQ a after (p.precedes hrun) (h hs a after hrun)

/-- Nothing need be known. -/
theorem of_forall (h : ∀ a after, s.Precedes after → Q a after) : p.Ensures s Q :=
  fun _ a after hrun => h a after (p.precedes hrun)

/-- What is simply given changes nothing. -/
theorem pure {a : α} (h : Q a s) : (pure a : Parser α).Ensures s Q := by
  rintro - b after hrun
  cases hrun
  exact h

/-- A failure ensures anything. -/
theorem failure : (failure : Parser α).Ensures s Q := by
  rintro - b after hrun
  cases hrun

/-- **One parser after another.** The second starts where the first ends. -/
theorem bind (hp : p.Ensures s P)
    (hf : ∀ a after, s.Precedes after → P a after → (f a).Ensures after R) :
    (p >>= f).Ensures s R := by
  intro hs b after hrun
  obtain ⟨a, s', hfirst, hsecond⟩ := run_bind_eq_some_iff.1 hrun
  have hprecedes := p.precedes hfirst
  exact hf a s' hprecedes (hp hs a s' hfirst) (hs.of_precedes hprecedes) b after hsecond

/-- A parser of which nothing need be known before another. -/
theorem seq (hf : ∀ a after, s.Precedes after → (f a).Ensures after R) : (p >>= f).Ensures s R :=
  bind (P := fun _ _ => True) (of_forall fun _ _ _ => trivial) fun a after h _ => hf a after h

/-- A value that is dropped may still have told something of the state. -/
theorem discard {u : Unit → ParseState → Prop} (h : p.Ensures s fun _ after => u () after) :
    (discard p).Ensures s u := by
  intro hs a after hrun
  obtain ⟨b, hrun⟩ := run_discard_eq_some hrun
  exact h hs b after hrun

/-- Looking changes nothing. -/
theorem peek {test : List Token → Bool} {f : Bool → Parser β}
    (h : (f (test s.rest)).Ensures s R) : (peek test >>= f).Ensures s R := h

/-- Asking for the state changes nothing. -/
theorem here {f : ParseState → Parser β} (h : (f s).Ensures s R) : (here >>= f).Ensures s R := h

/-- What follows an assurance may rely on it. -/
theorem ensure {condition : Bool} {f : Unit → Parser β}
    (h : condition = true → (f ()).Ensures s R) : (ensure condition >>= f).Ensures s R := by
  cases condition with
  | true => exact h rfl
  | false => exact bind failure fun _ _ _ hfalse => absurd hfalse not_false

/-- Either of two parsers is taken. -/
theorem branch {C : Prop} [Decidable C] {q q' : Parser β} (hq : C → q.Ensures s R)
    (hq' : ¬C → q'.Ensures s R) : (if C then q else q').Ensures s R := by
  by_cases h : C
  · rw [if_pos h]
    exact hq h
  · rw [if_neg h]
    exact hq' h

/-- **A loop** ends with what its steps end with, if they keep an invariant. -/
theorem iterate {step : α → Parser (α ⊕ β)} {I : α → ParseState → Prop}
    (hstep : ∀ a s, I a s → (step a).Ensures s fun r after =>
      Sum.elim (fun a' => I a' after) (fun b => R b after) r) {a : α} (h : I a s) :
    (Parser.iterate step a).Ensures s R := by
  intro hs b after hrun
  rw [run_iterate] at hrun
  generalize s.rest.length + 1 = fuel at hrun
  induction fuel generalizing a s with
  | zero => cases hrun
  | succ fuel ih =>
    obtain ⟨r, s', hfirst, hrest⟩ := run_bind_eq_some_iff.1 hrun
    have hnext := hstep a s h hs r s' hfirst
    cases r with
    | inl a' => exact ih hnext (hs.of_precedes ((step a).precedes hfirst)) hrest
    | inr b' =>
      cases hrest
      exact hnext

/-- A loop makes at least one step, and ends after it. -/
theorem iterate_first {step : α → Parser (α ⊕ β)} {a : α} {I : ParseState → Prop}
    (hstep : (step a).Ensures s fun _ after => I after)
    (hI : ∀ t u : ParseState, t.Precedes u → I t → I u) :
    (Parser.iterate step a).Ensures s fun _ after => I after := by
  intro hs b after hrun
  rw [run_iterate] at hrun
  obtain ⟨r, s', hfirst, hrest⟩ := run_bind_eq_some_iff.1 hrun
  refine hI s' after ?_ (hstep hs r s' hfirst)
  cases r with
  | inl a' => exact (repeatFrom step s.rest.length a').precedes hrest
  | inr b' =>
    cases hrest
    exact .refl _

end Ensures

/-! ### Lists, groups and what is put aside -/

/-- What is read aside starts from nothing written, and what was written before is written after it.
-/
theorem ensures_aside {R : α × List Token → ParseState → Prop}
    (h : p.Ensures { s with taken := [] } fun a after =>
      R (a, after.taken.reverse) { after with taken := s.taken }) : (aside p).Ensures s R := by
  intro hs r after hrun
  obtain ⟨⟨a, s'⟩, hinner, hr⟩ := Option.map_eq_some_iff.1 hrun
  cases hr
  exact h hs a s' hinner

/-- The tokens that are captured are those that were written. -/
theorem ensures_capture {R : α × List Token → Prop}
    (h : p.Ensures { s with taken := [] } fun a after => R (a, after.taken.reverse)) :
    (capture p).Ensures s fun r _ => R r :=
  .bind (ensures_aside (R := fun r _ => R r) h) fun _ _ _ hr => .seq fun _ _ _ => .pure hr

/-- **A group** is read from its own tokens, and it cannot be taken for a name. -/
theorem ensures_group {delimiter : Delimiter} {R : α → Prop}
    (h : ∀ s, p.Ensures s fun a _ => R a) :
    (group delimiter p).Ensures s fun a after => R a ∧ s.Marks after := by
  intro hs a after hrun
  unfold group at hrun
  dsimp only at hrun
  split at hrun
  · next d tokens rest hrest =>
    split at hrun
    · obtain ⟨⟨b, s'⟩, hinner, hx⟩ := Option.map_eq_some_iff.1 hrun
      cases hx
      have htokens : ∀ t ∈ tokens, t.IsProper := by
        have hgroup := hs (.group d tokens) (hrest ▸ List.mem_cons_self)
        cases hgroup with
        | group _ htokens => exact htokens
      refine ⟨h { rest := tokens } htokens b s' hinner, [_], .group delimiter s'.taken.reverse [], ?_⟩
      exact List.suffix_refl _
    · cases hrun
  · cases hrun

/-- What every part of a list has, all have. -/
theorem ensures_listUntil {stop : List Token → Bool} {R : α → Prop}
    (h : ∀ s, p.Ensures s fun a _ => R a) :
    (listUntil stop p).Ensures s fun as _ => ∀ a ∈ as, R a := by
  refine .iterate (I := fun read _ => ∀ a ∈ read, R a) (fun read s hread => ?_)
    (List.forall_mem_nil _)
  have hall : ∀ read : List α, (∀ a ∈ read, R a) → ∀ a ∈ read.reverse, R a :=
    fun read hread a ha => hread a (List.mem_reverse.1 ha)
  refine .peek ?_
  split
  · exact .pure (hall read hread)
  · refine .bind (h s) fun a s' _ ha => .peek ?_
    have hmore : ∀ b ∈ a :: read, R b := List.forall_mem_cons.2 ⟨ha, hread⟩
    split
    · exact .pure (hall _ hmore)
    · exact .seq fun _ _ _ => .pure hmore

/-- What every part up to the end has, all have. -/
theorem ensures_toEnd {R : α → Prop} (h : ∀ s, p.Ensures s fun a _ => R a) :
    (toEnd p).Ensures s fun as _ => ∀ a ∈ as, R a := by
  refine .iterate (I := fun read _ => ∀ a ∈ read, R a) (fun read s hread => ?_)
    (List.forall_mem_nil _)
  refine .peek ?_
  split
  · exact .bind (h s) fun a _ _ ha => .pure (List.forall_mem_cons.2 ⟨ha, hread⟩)
  · exact .pure fun a ha => hread a (List.mem_reverse.1 ha)

/-! ### Words, operators and lifetimes -/

/-- Writing tokens adds to what was written. -/
theorem ensures_write {tokens : List Token} (h : tokens ≠ []) :
    (write tokens).Ensures s fun _ after => s.Grows after := by
  rintro - u after hrun
  cases hrun
  have hpos : 0 < tokens.length := List.length_pos_iff.2 h
  rw [ParseState.Grows, List.length_append, List.length_reverse]
  omega

/-- A word is written as it stands. -/
theorem ensures_anyWord :
    anyWord.Ensures s fun id after => s.rest = id.token :: after.rest ∧
      after.taken = id.token :: s.taken ∧ s.Begins after := by
  intro hs id after hrun
  obtain ⟨_, _, hhere, hrun⟩ := run_bind_eq_some_iff.1 hrun
  cases hhere
  split at hrun
  · next name raw rest hrest =>
    cases hrun
    have hproper : (Token.word name raw).IsProper := hs _ (hrest ▸ List.mem_cons_self)
    exact ⟨by rw [hrest]; rfl, rfl, _, hproper, nofun, List.suffix_refl _⟩
  · cases hrun

/-- A given word is written as a plain one. -/
theorem ensures_word {word : String} :
    (Parser.word word).Ensures s fun _ after =>
      after.taken = .plain word :: s.taken ∧ s.Begins after := by
  intro hs u after hrun
  obtain ⟨-, htaken, hbegins⟩ := ensures_anyWord hs _ _ (run_word_eq_some hrun)
  exact ⟨htaken, hbegins⟩

/-- A proper token that stands for a name is one. -/
theorem isName_of_startsName {id : Identifier} {rest : List Token} (hproper : id.token.IsProper)
    (h : startsName (id.token :: rest) = true) : IsName id.name := by
  obtain ⟨name, raw⟩ := id
  cases hproper with
  | word hne hall hraw =>
    refine ⟨hne, ?_, hall⟩
    rintro rfl
    cases raw with
    | true => exact hraw rfl (by decide)
    | false => cases h

/-- A name is a name, and the first token to be written. -/
theorem ensures_name : name.Ensures s fun id after => IsName id.name ∧ s.Begins after := by
  refine .peek (.ensure fun hstarts hs id after hrun => ?_)
  obtain ⟨hrest, -, hbegins⟩ := ensures_anyWord hs id after hrun
  rw [hrest] at hstarts
  exact ⟨isName_of_startsName (hs _ (hrest ▸ List.mem_cons_self)) hstarts, hbegins⟩

/-- Some of the words that are no names otherwise may stand for one. -/
theorem ensures_anyWord_of_startsWord {word : String} (hword : IsName word)
    (h : startsWord word s.rest = true) :
    anyWord.Ensures s fun id after => IsName id.name ∧ s.Begins after := by
  intro hs id after hrun
  obtain ⟨hrest, -, hbegins⟩ := ensures_anyWord hs id after hrun
  rw [hrest] at h
  have hname : id.name = word := beq_iff_eq.1 (Bool.and_eq_true_iff.1 h).2
  exact ⟨hname ▸ hword, hbegins⟩

/-- One of several words that may stand for a name is one. -/
theorem ensures_anyWord_of_startsOneOf {words : List String} (hwords : ∀ word ∈ words, IsName word)
    (h : startsOneOf words s.rest = true) :
    anyWord.Ensures s fun id after => IsName id.name ∧ s.Begins after := by
  obtain ⟨word, hword, hstarts⟩ := List.any_eq_true.1 h
  exact ensures_anyWord_of_startsWord (hwords word hword) hstarts

/-- An operator is punctuation. -/
theorem ensures_operator {op : String} {c : Char} {more : List Char} (hop : op.toList = c :: more)
    (hchar : isIdentifierContinue c = false) :
    (operator op).Ensures s fun _ after => s.Begins after ∧ s.Marks after := by
  obtain ⟨joint, tokens, hwritten⟩ : ∃ joint tokens, Token.operator op = .punct c joint :: tokens := by
    rw [Token.operator, hop]
    cases more with
    | nil => exact ⟨false, [], rfl⟩
    | cons d more => exact ⟨true, _, rfl⟩
  have htaken : ∀ taken, .punct c joint :: taken <:+ (Token.operator op).reverse ++ taken := by
    intro taken
    rw [hwritten, List.reverse_cons, List.append_assoc]
    exact List.suffix_append _ _
  have hliteral : ∀ text, Token.punct c joint ≠ .literal text := by rintro text ⟨⟩
  refine .peek (.ensure fun _ => ?_)
  rintro - u after hrun
  cases hrun
  exact ⟨⟨_, .punct joint hchar, hliteral, htaken _⟩, [_], .punct joint hchar [], htaken _⟩

/-- A lifetime cannot be taken for a name. -/
theorem ensures_lifetime : lifetime.Ensures s fun _ after => s.Begins after ∧ s.Marks after := by
  intro hs token after hrun
  obtain ⟨_, _, hhere, hrun⟩ := run_bind_eq_some_iff.1 hrun
  cases hhere
  split at hrun
  · next text rest hrest =>
    cases hrun
    have hproper : (Token.lifetime text).IsProper := hs _ (hrest ▸ List.mem_cons_self)
    refine ⟨⟨_, hproper, nofun, List.suffix_refl _⟩, [_], ?_, List.suffix_refl _⟩
    cases hproper with
    | lifetime name => exact .lifetime name []
  · cases hrun

/-- What is taken only if it stands there: then something is known, and otherwise nothing changes. -/
theorem ensures_optional {test : List Token → Bool} {I : ParseState → Prop}
    (h : p.Ensures s fun _ after => I after) :
    (peek test >>= fun found =>
      if found then p >>= fun _ => Pure.pure true else Pure.pure false).Ensures s fun b after =>
        (b = true → I after) ∧ (b = false → after = s ∧ test s.rest = false) := by
  refine .peek ?_
  split
  · exact .bind h fun _ _ _ hI => .pure ⟨fun _ => hI, nofun⟩
  · next hnot => exact .pure ⟨nofun, fun _ => ⟨rfl, Bool.not_eq_true _ ▸ hnot⟩⟩

/-- What goes on depends on whether something was found; if it was not, everything is as it was. -/
theorem Ensures.ite {p : Parser Bool} {I : ParseState → Prop} {C : Prop} {q q' : Parser β}
    (hp : p.Ensures s fun b after => (b = true → I after) ∧ (b = false → after = s ∧ C))
    (hq : ∀ after, s.Precedes after → I after → q.Ensures after R) (hq' : C → q'.Ensures s R) :
    (p >>= fun found => if found = true then q else q').Ensures s R := by
  refine .bind hp fun found after h ⟨htrue, hfalse⟩ => ?_
  cases found with
  | true => exact hq after h (htrue rfl)
  | false =>
    obtain ⟨rfl, hC⟩ := hfalse rfl
    exact hq' hC

/-- A word that is found is written; otherwise it is not there. -/
theorem ensures_word? {word : String} :
    (Parser.word? word).Ensures s fun b after =>
      (b = true → after.taken = .plain word :: s.taken ∧ s.Begins after) ∧
        (b = false → after = s ∧ startsWord word s.rest = false) :=
  ensures_optional (I := fun after => after.taken = .plain word :: s.taken ∧ s.Begins after) ensures_word

/-- An operator that is found is written; otherwise it is not there. -/
theorem ensures_operator? {op : String} {c : Char} {more : List Char} (hop : op.toList = c :: more)
    (hchar : isIdentifierContinue c = false) :
    (operator? op).Ensures s fun b after =>
      (b = true → s.Begins after ∧ s.Marks after) ∧
        (b = false → after = s ∧ startsOperator op s.rest = false) :=
  ensures_optional (ensures_operator hop hchar)

/-- A lifetime that is found is written; otherwise there is none. -/
theorem ensures_lifetime? :
    lifetime?.Ensures s fun b after =>
      (b = true → s.Begins after ∧ s.Marks after) ∧
        (b = false → after = s ∧ startsLifetime s.rest = false) :=
  ensures_optional (.discard ensures_lifetime)

end Parser

end TypeSchema.Source
