import Mathlib
import TypeSchema.Source.Lexer

/-!
# The tokens of a text

Not every token can come out of a text. A word has letters, and only such as identifiers are made of;
a lifetime begins with its apostrophe; punctuation is no part of an identifier.

* `Token.IsProper` says this of a token and of the tokens in it.
* `isProper_of_leaf?` is the step of the lexer: it reads **one proper token**. `isProper_of_tokensFrom`
  goes from there to all tokens that are read, by induction on what the lexer may still do.
* `isProper_of_fileTokens?` starts from the text of a file.
-/

namespace TypeSchema.Source

open Text (isIdentifierContinue isIdentifierStart)

/-- Is the token such as a text can give? -/
inductive Token.IsProper : Token → Prop where
  /-- A word. The words for parts of a path, and the underscore, are never raw. -/
  | word {name : String} {raw : Bool} (hne : name ≠ "")
      (hall : name.toList.all isIdentifierContinue = true)
      (hraw : raw = true → name ∉ Lexer.neverRaw) : IsProper (.word name raw)
  /-- A lifetime. -/
  | lifetime (name : String) : IsProper (.lifetime ("'" ++ name))
  /-- Punctuation. -/
  | punct {c : Char} (joint : Bool) (hchar : isIdentifierContinue c = false) :
      IsProper (.punct c joint)
  /-- A literal. -/
  | literal (text : String) : IsProper (.literal text)
  /-- A group of such tokens. -/
  | group (delimiter : Delimiter) {tokens : List Token} (htokens : ∀ t ∈ tokens, t.IsProper) :
      IsProper (.group delimiter tokens)

namespace Lexer

variable {text rest : List Char}

/-! ### Words -/

/-- What may begin an identifier may go on with it. -/
theorem isIdentifierContinue_of_isIdentifierStart {c : Char} (h : isIdentifierStart c = true) :
    isIdentifierContinue c = true := by
  unfold isIdentifierStart at h
  unfold isIdentifierContinue
  split at h
  · next hascii =>
    rw [if_pos hascii]
    rw [Bool.or_eq_true] at h ⊢
    refine h.imp_left fun halpha => ?_
    rw [Char.isAlphanum, halpha, Bool.true_or]
  · next hascii => rw [if_neg hascii, h, Bool.true_or]

/-- The text before a rest of it. -/
@[simp]
theorem upTo_append (front rest : List Char) : upTo (front ++ rest) rest = String.ofList front := by
  rw [upTo, List.length_append, Nat.add_sub_cancel, List.take_left]

/-- A word is taken from the front of a text. -/
theorem exists_of_word? (h : word? text = some rest) :
    ∃ front, text = front ++ rest ∧ front ≠ [] ∧ front.all isIdentifierContinue = true := by
  cases text with
  | nil => cases h
  | cons c more =>
    rw [word?] at h
    split at h
    · next hstart =>
      obtain rfl := Option.some.inj h
      refine ⟨c :: more.takeWhile isIdentifierContinue, ?_, List.cons_ne_nil _ _, ?_⟩
      · rw [List.cons_append, List.takeWhile_append_dropWhile]
      · have hfirst : isIdentifierContinue c = true := by
          rcases Bool.or_eq_true_iff.1 hstart with hmark | hstart
          · rw [beq_iff_eq.1 hmark]
            decide
          · exact isIdentifierContinue_of_isIdentifierStart hstart
        rw [List.all_cons, hfirst, Bool.true_and]
        exact List.all_takeWhile
    · cases h

/-- An identifier is a proper word, whether it is raw or not. -/
theorem isProper_of_identifier? {name : String} {raw : Bool}
    (h : identifier? text = some (name, raw, rest)) : (Token.word name raw).IsProper := by
  unfold identifier? at h
  dsimp only at h
  -- Where the word begins does not matter.
  generalize (if startsWith "r#" text then text.drop 2 else text) = start at h
  split at h
  · cases h
  · next after hword =>
    split at h
    · cases h
    · next hraw =>
      cases h
      obtain ⟨front, htext, hne, hall⟩ := exists_of_word? hword
      rw [htext, upTo_append] at hraw ⊢
      refine .word ?_ ?_ fun hmark => ?_
      · rwa [← String.ofList_nil, Ne, String.ofList_inj]
      · rwa [String.toList_ofList]
      · simpa [hmark] using hraw

/-! ### Other tokens -/

/-- Punctuation is no part of an identifier. -/
theorem not_isIdentifierContinue_of_isPunctuation {c : Char} (h : isPunctuation c = true) :
    isIdentifierContinue c = false := by
  have hmem : c ∈ "~!@#$%^&*-=+|;:,<.>/?'".toList := of_decide_eq_true h
  fin_cases hmem <;> rfl

/-- What an apostrophe begins is a proper lifetime. -/
theorem isProper_of_lifetime? {token : Token} (h : lifetime? text = some (token, rest)) :
    token.IsProper := by
  unfold lifetime? at h
  obtain ⟨⟨name, raw, after⟩, -, h⟩ := Option.bind_eq_some_iff.1 h
  dsimp only at h
  split at h
  · cases h
  · split at h
    · cases h
      exact .lifetime _
    · cases h
  · cases h
    exact .lifetime _

/-- **One token is proper**, whatever stands after it. -/
theorem isProper_of_leaf? {token : Token} (h : leaf? text = some (token, rest)) : token.IsProper := by
  unfold leaf? at h
  split at h
  · cases h
    exact .literal _
  · split at h
    · next hpunctuation =>
      split at h
      · exact isProper_of_lifetime? h
      · cases h
        unfold startsPunctuation at hpunctuation
        rw [Bool.and_eq_true_iff] at hpunctuation
        exact .punct _ (not_isIdentifierContinue_of_isPunctuation hpunctuation.2)
      · cases h
    · split at h
      · cases h
      · obtain ⟨⟨name, raw, after⟩, hword, heq⟩ := Option.map_eq_some_iff.1 h
        cases heq
        exact isProper_of_identifier? hword

/-- The tokens of a doc comment are proper. -/
theorem isProper_of_mem_docTokens {content : List Char} {inner : Bool} {t : Token}
    (ht : t ∈ docTokens content inner) : t.IsProper := by
  have hgroup : ∀ t ∈ [Token.plain "doc", .punct '=' false,
      .literal (Text.literal (String.ofList content))], t.IsProper := by
    intro t ht
    simp only [List.mem_cons, List.not_mem_nil, or_false] at ht
    rcases ht with rfl | rfl | rfl
    · exact .word (by decide) (by decide) nofun
    · exact .punct false (by decide)
    · exact .literal _
  rcases List.mem_append.1 ht with ht | ht
  · rcases List.mem_append.1 ht with ht | ht
    · rw [List.mem_singleton.1 ht]
      exact .punct false (by decide)
    · split at ht
      · rw [List.mem_singleton.1 ht]
        exact .punct false (by decide)
      · exact absurd ht List.not_mem_nil
  · rw [List.mem_singleton.1 ht]
    exact .group .bracket hgroup

/-! ### Texts -/

/-- What is read stays proper, in every group and after it. -/
theorem isProper_of_tokensFrom {fuel : Nat} {inside : Option Delimiter} {read tokens : List Token}
    (hread : ∀ t ∈ read, t.IsProper) (h : tokensFrom fuel inside read text = some (tokens, rest)) :
    ∀ t ∈ tokens, t.IsProper := by
  have hall : ∀ t ∈ read.reverse, t.IsProper := fun t ht => hread t (List.mem_reverse.1 ht)
  induction fuel generalizing inside read tokens text rest with
  | zero => cases h
  | succ fuel ih =>
    unfold tokensFrom at h
    dsimp only at h
    have hnext : ∀ (more : List Token) {left : List Char}, (∀ t ∈ more, t.IsProper) →
        tokensFrom fuel inside (more ++ read) left = some (tokens, rest) →
          ∀ t ∈ tokens, t.IsProper := by
      intro more left hmore h
      have hboth : ∀ t ∈ more ++ read, t.IsProper := List.forall_mem_append.2 ⟨hmore, hread⟩
      exact ih hboth h fun t ht => hboth t (List.mem_reverse.1 ht)
    split at h
    · -- A doc comment.
      split at h
      · cases h
      · exact hnext _ (fun t ht => isProper_of_mem_docTokens (List.mem_reverse.1 ht)) h
    · split at h
      · -- The end of the text.
        split at h
        · cases h
          exact hall
        · cases h
      · split at h
        · -- A group, and what follows it.
          split at h
          · next inner after hinner =>
            have hgroup := ih (List.forall_mem_nil _) hinner (List.forall_mem_nil _)
            exact hnext [_] (List.forall_mem_singleton.2 (.group _ hgroup)) h
          · cases h
        · -- The end of a group.
          split at h
          · cases h
            exact hall
          · cases h
        · -- Any other token.
          split at h
          · next token after hleaf =>
            exact hnext [_] (List.forall_mem_singleton.2 (isProper_of_leaf? hleaf)) h
          · cases h

/-- All tokens of a text are proper. -/
theorem isProper_of_tokens? {text : String} {tokens : List Token} (h : tokens? text = some tokens) :
    ∀ t ∈ tokens, t.IsProper := by
  obtain ⟨⟨read, rest⟩, hread, rfl⟩ := Option.map_eq_some_iff.1 h
  exact isProper_of_tokensFrom (List.forall_mem_nil _) hread

/-- **The tokens of a file are proper.** -/
theorem isProper_of_fileTokens? {text : String} {tokens : List Token}
    (h : fileTokens? text = some tokens) : ∀ t ∈ tokens, t.IsProper :=
  isProper_of_tokens? h

end Lexer

end TypeSchema.Source
