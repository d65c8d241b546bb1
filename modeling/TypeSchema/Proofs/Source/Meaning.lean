import TypeSchema.Proofs.TypeRef.Naming
import TypeSchema.Source.TypeReading

/-!
# What written types mean

A written type is read as a plain value, a container or the name of a definition, and what is none of
these is kept as it is written. What is kept must not be taken for one of the others.

* `Token.Unmistakable` holds of tokens whose text does not begin like a name or a container,
  **whatever tokens follow** (`Unmistakable.append`); `not_isName_lead` is what it is for.
* `TypeSyntax.IsProper` says what the grammar makes of a type: the last segment of a path is a name,
  and where more than that name may be kept, the tokens are unmistakable.
* `wellNamed_ofSyntax`: a type that is proper means one that is well named.
-/

namespace TypeSchema

open Source (ArgumentSyntax Delimiter Identifier Token TypeSyntax)
open Text (isIdentifierContinue)

/-! ### Texts of tokens -/

/-- A text does not begin like a name if a character that names do not have stands before its first
angle bracket or comma. -/
theorem not_isName_lead (front : List Char) (c : Char) {rest : List Char} {text : String}
    (htext : text.toList = front ++ c :: rest) (hfront : ∀ d ∈ front, isLeading d = true)
    (hleading : isLeading c = true) (hchar : isIdentifierContinue c = false) :
    ¬ IsName (lead text) := by
  intro hname
  have htake : text.toList.takeWhile isLeading = front ++ c :: rest.takeWhile isLeading := by
    rw [htext, List.takeWhile_append_of_pos hfront, List.takeWhile_cons_of_pos hleading]
  have hall := hname.2.2
  rw [lead, String.toList_ofList, htake] at hall
  have hc : isIdentifierContinue c = true :=
    List.all_eq_true.1 hall c (List.mem_append_right front List.mem_cons_self)
  rw [hchar] at hc
  cases hc

/-- Nor does it if it begins with such a character. -/
theorem not_isName_lead_append {mark : String} {c : Char} {more : List Char}
    (hmark : mark.toList = c :: more) (hchar : isIdentifierContinue c = false) (rest : String) :
    ¬ IsName (lead (mark ++ rest)) := by
  have htext : (mark ++ rest).toList = c :: (more ++ rest.toList) := by
    rw [String.toList_append, hmark, List.cons_append]
  by_cases hleading : isLeading c = true
  · exact not_isName_lead [] c htext (List.forall_mem_nil _) hleading hchar
  · have hempty : lead (mark ++ rest) = "" := by
      rw [lead, htext, List.takeWhile_cons_of_neg hleading]
    rw [hempty]
    decide

namespace Source.Token

/-- Does the text of the tokens not begin like a name or a container, whatever follows them? -/
inductive Unmistakable : List Token → Prop where
  /-- Punctuation. -/
  | punct {c : Char} (joint : Bool) (hchar : isIdentifierContinue c = false) (rest : List Token) :
      Unmistakable (.punct c joint :: rest)
  /-- A lifetime. -/
  | lifetime (name : String) (rest : List Token) : Unmistakable (.lifetime ("'" ++ name) :: rest)
  /-- A group. -/
  | group (delimiter : Delimiter) (tokens rest : List Token) :
      Unmistakable (.group delimiter tokens :: rest)
  /-- An underscore, which is no name by itself. -/
  | blank (rest : List Token) : Unmistakable (.plain "_" :: rest)
  /-- A word that something follows: there is a blank between the two. -/
  | words {name : String} (raw : Bool) (hall : name.toList.all isIdentifierContinue = true)
      (next : Token) (rest : List Token) : Unmistakable (.word name raw :: next :: rest)

/-- More tokens make no name of what cannot be taken for one. -/
theorem Unmistakable.append {tokens : List Token} (h : Unmistakable tokens) (more : List Token) :
    Unmistakable (tokens ++ more) := by
  cases h with
  | punct joint hchar rest => exact .punct joint hchar (rest ++ more)
  | lifetime name rest => exact .lifetime name (rest ++ more)
  | group delimiter tokens rest => exact .group delimiter tokens (rest ++ more)
  | blank rest => exact .blank (rest ++ more)
  | words raw hall next rest => exact .words raw hall next (rest ++ more)

/-- A word that something follows does not begin like a name, because of the blank between the two. -/
theorem not_isName_lead_words {name : String} (raw : Bool)
    (hall : name.toList.all isIdentifierContinue = true) (next : Token) (rest : List Token) :
    ¬ IsName (lead (textOf (.word name raw :: next :: rest))) := by
  have htext : textOf (.word name raw :: next :: rest) =
      wordText name raw ++ (" " ++ textOf (next :: rest)) := by
    rw [textOf, textAfter, text, textOf, String.append_assoc]
    exact nofun
  rw [htext]
  cases raw with
  | true =>
    -- The mark of raw words is no part of a name either.
    have hchars : ("r#" ++ name ++ (" " ++ textOf (next :: rest))).toList =
        ['r'] ++ '#' :: (name ++ (" " ++ textOf (next :: rest))).toList := by
      rw [String.append_assoc, String.toList_append]
      rfl
    exact not_isName_lead ['r'] '#' hchars (List.forall_mem_singleton.2 (by decide)) (by decide)
      (by decide)
  | false =>
    have hchars : (name ++ (" " ++ textOf (next :: rest))).toList =
        name.toList ++ ' ' :: (textOf (next :: rest)).toList := by
      rw [String.toList_append, String.toList_append]
      rfl
    exact not_isName_lead name.toList ' ' hchars (fun d hd =>
      isLeading_of_isIdentifierContinue (List.all_eq_true.1 hall d hd)) (by decide) (by decide)

/-- **Unmistakable tokens do not begin like a name.** -/
theorem Unmistakable.not_isName_lead {tokens : List Token} (h : Unmistakable tokens) :
    ¬ IsName (lead (textOf tokens)) := by
  cases h with
  | punct joint hchar rest =>
    rw [textOf, text]
    exact not_isName_lead_append (String.toList_singleton _) hchar _
  | lifetime name rest =>
    rw [textOf, text, String.append_assoc]
    exact not_isName_lead_append rfl (by decide) _
  | group delimiter tokens rest =>
    cases delimiter with
    | parenthesis | bracket =>
      rw [textOf, text, String.append_assoc, String.append_assoc]
      exact not_isName_lead_append rfl (by decide) _
    | brace =>
      cases tokens with
      | nil =>
        rw [textOf, text]
        exact not_isName_lead_append rfl (by decide) _
      | cons =>
        rw [textOf, text, String.append_assoc, String.append_assoc, String.append_assoc]
        exact not_isName_lead_append rfl (by decide) _
  | blank rest =>
    cases rest with
    | nil => decide
    | cons next rest => exact not_isName_lead_words false (by decide) next rest
  | words raw hall next rest => exact not_isName_lead_words raw hall next rest

end Source.Token

/-! ### Types as they are written -/

namespace Source

mutual

/-- Is the type such as the grammar gives it? The last segment of a path is a name. Where arguments
follow, or the type is no path, the tokens cannot be taken for a name. -/
inductive TypeSyntax.IsProper : TypeSyntax → Prop where
  /-- A path. -/
  | path {last : Identifier} {arguments : List ArgumentSyntax} (simple : Bool) {tokens : List Token}
      (hname : IsName last.name) (harguments : ∀ a ∈ arguments, ArgumentSyntax.IsProper a)
      (htokens : arguments ≠ [] → Token.Unmistakable tokens) :
      TypeSyntax.IsProper (.path last arguments simple tokens)
  /-- A reference. -/
  | reference {inner : TypeSyntax} (h : TypeSyntax.IsProper inner) :
      TypeSyntax.IsProper (.reference inner)
  /-- A type in parentheses. -/
  | parenthesized {inner : TypeSyntax} (h : TypeSyntax.IsProper inner) :
      TypeSyntax.IsProper (.parenthesized inner)
  /-- A slice. -/
  | slice {item : TypeSyntax} (h : TypeSyntax.IsProper item) : TypeSyntax.IsProper (.slice item)
  /-- An array. -/
  | array {item : TypeSyntax} (h : TypeSyntax.IsProper item) : TypeSyntax.IsProper (.array item)
  /-- Bounds. -/
  | bound {tokens : List Token} (h : Token.Unmistakable tokens) :
      TypeSyntax.IsProper (.bound tokens)
  /-- Any other type. -/
  | other {tokens : List Token} (h : Token.Unmistakable tokens) :
      TypeSyntax.IsProper (.other tokens)

/-- Is the argument of a path such as the grammar gives it? -/
inductive ArgumentSyntax.IsProper : ArgumentSyntax → Prop where
  /-- A type. -/
  | type {t : TypeSyntax} (h : TypeSyntax.IsProper t) : ArgumentSyntax.IsProper (.type t)
  /-- A constant, whatever it is. -/
  | constant (tokens : List Token) : ArgumentSyntax.IsProper (.constant tokens)
  /-- Any other argument. -/
  | other : ArgumentSyntax.IsProper .other

end

end Source

namespace TypeRef

/-- A container of well-named types is well named. -/
theorem wellNamed_of_container? {name : String} {arguments : List TypeRef} {t : TypeRef}
    (h : container? name arguments = some t) (harguments : ∀ u ∈ arguments, u.WellNamed) :
    t.WellNamed := by
  unfold container? at h
  split at h
  · next inner =>
    have hinner : inner.WellNamed := harguments inner List.mem_cons_self
    split_ifs at h <;> cases h <;> exact hinner
  · next first second rest =>
    have hfirst : first.WellNamed := harguments first List.mem_cons_self
    have hsecond : second.WellNamed :=
      harguments second (List.mem_cons_of_mem first List.mem_cons_self)
    split_ifs at h <;> cases h
    · exact hfirst
    · exact ⟨hfirst, hsecond⟩
  · cases h

/-- The last segment of a path means what is well named, if the arguments do. -/
theorem wellNamed_ofPath {last : Identifier} {arguments : List TypeRef} {tokens : List Token}
    (hname : IsName last.name) (harguments : ∀ u ∈ arguments, u.WellNamed)
    (htokens : arguments ≠ [] → Token.Unmistakable tokens) :
    (ofPath last arguments tokens).WellNamed := by
  unfold ofPath
  split
  · split
    · exact trivial
    · exact hname
  · next hne =>
    cases hcontainer : container? last.text arguments with
    | some t => exact wellNamed_of_container? hcontainer harguments
    | none => exact (htokens (mt List.isEmpty_iff.2 hne)).not_isName_lead

mutual

/-- **A type that is proper means one that is well named.** -/
theorem wellNamed_ofSyntax {t : TypeSyntax} (h : t.IsProper) : (ofSyntax t).WellNamed := by
  cases h with
  | path simple hname harguments htokens =>
    rw [ofSyntax]
    refine wellNamed_ofPath hname (wellNamed_ofArguments harguments) fun hne => htokens ?_
    rintro rfl
    exact hne rfl
  | reference h | parenthesized h | slice h | array h =>
    have hinner := wellNamed_ofSyntax h
    exact hinner
  | bound h | other h => exact h.not_isName_lead

/-- The types among proper arguments are well named. -/
theorem wellNamed_ofArguments {arguments : List ArgumentSyntax}
    (h : ∀ a ∈ arguments, a.IsProper) : ∀ u ∈ ofArguments arguments, u.WellNamed := by
  cases arguments with
  | nil => exact List.forall_mem_nil _
  | cons a rest =>
    obtain ⟨ha, hrest⟩ := List.forall_mem_cons.1 h
    have hmore := wellNamed_ofArguments hrest
    cases ha with
    | type ht => exact List.forall_mem_cons.2 ⟨wellNamed_ofSyntax ht, hmore⟩
    | constant | other => exact hmore

end

end TypeRef

end TypeSchema
