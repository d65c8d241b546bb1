import Mathlib
import TypeSchema.Text.Blank

/-!
# The words of a text

`Spaced` says what it means that a text has given words, without splitting it: blanks, then a word, then
the rest of the text, which begins with a blank unless it is empty. A text has many ways to be spaced
for the same words but only one list of words, and splitting finds it (`words_eq_iff`).
-/

namespace TypeSchema.Text

/-- Is the text a word: not empty, and without blanks? -/
structure IsWord (word : String) : Prop where
  /-- There is something to read. -/
  nonempty : word ≠ ""
  /-- Nothing in it divides it. -/
  unbroken : ∀ c ∈ word.toList, isBlank c = false

/-- Does the text have the given words? Any blanks may stand around them, and at least one stands
between two of them. -/
inductive Spaced : List String → List Char → Prop where
  /-- Blanks only. -/
  | blanks {gap : List Char} (hgap : ∀ c ∈ gap, isBlank c = true) : Spaced [] gap
  /-- Blanks and a word, with a blank or the end behind it. -/
  | word {gap rest : List Char} {w : String} {ws : List String}
      (hgap : ∀ c ∈ gap, isBlank c = true) (hword : IsWord w)
      (hend : ∀ c ∈ rest.head?, isBlank c = true) (hrest : Spaced ws rest) :
      Spaced (w :: ws) (gap ++ w.toList ++ rest)

variable {ws : List String} {text : List Char}

/-- What a text is spaced into are words. -/
theorem Spaced.isWord (h : Spaced ws text) : ∀ w ∈ ws, IsWord w := by
  induction h with
  | blanks _ => exact fun w hw => absurd hw List.not_mem_nil
  | word _ hword _ _ ih =>
    intro w hw
    rcases List.mem_cons.1 hw with rfl | hw
    · exact hword
    · exact ih w hw

/-- No words are spaced by nothing. -/
@[simp] theorem spaced_nil : Spaced [] [] := .blanks (by simp)

/-- A blank in front changes nothing. -/
theorem Spaced.cons {c : Char} (hc : isBlank c = true) (h : Spaced ws text) :
    Spaced ws (c :: text) := by
  cases h with
  | blanks hgap => exact .blanks (List.forall_mem_cons.2 ⟨hc, hgap⟩)
  | @word gap rest w ws hgap hword hend hrest =>
    have hmore : ∀ b ∈ c :: gap, isBlank b = true := List.forall_mem_cons.2 ⟨hc, hgap⟩
    exact .word hmore hword hend hrest

/-- A word in front, with a blank or the end behind it. -/
theorem Spaced.cons_word {w : String} (hword : IsWord w)
    (hend : ∀ c ∈ text.head?, isBlank c = true) (h : Spaced ws text) :
    Spaced (w :: ws) (w.toList ++ text) := by
  have hgap : ∀ c ∈ ([] : List Char), isBlank c = true := by simp
  exact .word hgap hword hend h

/-! ### Splitting -/

/-- The characters that were kept back make up a word. -/
theorem isWord_ofList_reverse {word : List Char} (hne : word ≠ [])
    (hword : ∀ c ∈ word, isBlank c = false) : IsWord (String.ofList word.reverse) where
  nonempty := by simpa [String.ofList_eq_empty_iff] using hne
  unbroken c hc := hword c (by simpa using hc)

/-- **Splitting is right**: the text has the words that are split off. The characters of a word that
was begun stand in front of the rest of the text. -/
theorem spaced_wordsFrom {word : List Char} (hword : ∀ c ∈ word, isBlank c = false) :
    Spaced ((wordsFrom word text).map String.ofList) (word.reverse ++ text) := by
  induction text generalizing word with
  | nil =>
    by_cases hne : word = []
    · subst hne
      exact spaced_nil
    · have hlast := spaced_nil.cons_word (isWord_ofList_reverse hne hword) (by simp)
      simpa [wordsFrom, hne] using hlast
  | cons c rest ih =>
    by_cases hc : isBlank c = true
    · have hrest : Spaced ((wordsFrom [] rest).map String.ofList) rest := ih (by simp)
      by_cases hne : word = []
      · subst hne
        simpa [wordsFrom, hc] using hrest.cons hc
      · have hmore := (hrest.cons hc).cons_word (isWord_ofList_reverse hne hword) (by simpa using hc)
        simpa [wordsFrom, hc, hne] using hmore
    · have hlonger : ∀ d ∈ c :: word, isBlank d = false := by simpa [hc] using hword
      simpa [wordsFrom, hc] using ih hlonger

/-- A gap before the words has no part in them. -/
theorem wordsFrom_append_of_blank {gap : List Char} (hgap : ∀ c ∈ gap, isBlank c = true) :
    wordsFrom [] (gap ++ text) = wordsFrom [] text := by
  induction gap with
  | nil => rfl
  | cons c gap ih =>
    obtain ⟨hc, hgap⟩ := List.forall_mem_cons.1 hgap
    rw [List.cons_append, wordsFrom, if_pos hc, if_pos List.isEmpty_nil, ih hgap]

/-- Characters without a blank are kept back, the last one first. -/
theorem wordsFrom_append_of_word {word begun : List Char}
    (hword : ∀ c ∈ word, isBlank c = false) :
    wordsFrom begun (word ++ text) = wordsFrom (word.reverse ++ begun) text := by
  induction word generalizing begun with
  | nil => rfl
  | cons c word ih =>
    obtain ⟨hc, hword⟩ := List.forall_mem_cons.1 hword
    rw [List.cons_append, wordsFrom, if_neg (by simp [hc]), ih hword, List.reverse_cons,
      List.append_assoc, List.singleton_append]

/-- A blank or the end completes the word that was begun. -/
theorem wordsFrom_of_end {begun : List Char} (hne : begun ≠ [])
    (hend : ∀ c ∈ text.head?, isBlank c = true) :
    wordsFrom begun text = begun.reverse :: wordsFrom [] text := by
  cases text with
  | nil => simp [wordsFrom, hne]
  | cons c rest =>
    have hc : isBlank c = true := hend c rfl
    simp [wordsFrom, hc, hne]

/-- **Splitting finds all words**: a text has no other words than those that are split off. -/
theorem Spaced.wordsFrom_eq (h : Spaced ws text) : (wordsFrom [] text).map String.ofList = ws := by
  induction h with
  | @blanks gap hgap =>
    rw [← List.append_nil gap, wordsFrom_append_of_blank hgap]
    rfl
  | @word gap rest w ws hgap hword hend hrest ih =>
    have hne : w.toList.reverse ++ [] ≠ [] := by simpa using hword.nonempty
    rw [List.append_assoc, wordsFrom_append_of_blank hgap, wordsFrom_append_of_word hword.unbroken,
      wordsFrom_of_end hne hend, List.map_cons, ih]
    simp

/-- **The words of a text** are the one list of words that it has. -/
theorem words_eq_iff {text : String} : words text = ws ↔ Spaced ws text.toList := by
  constructor
  · rintro rfl
    have hnone : ∀ c ∈ ([] : List Char), isBlank c = false := by simp
    exact spaced_wordsFrom hnone
  · exact Spaced.wordsFrom_eq

/-! ### Joining -/

/-- Words joined by single blanks are a text with these words. -/
theorem spaced_unwords (h : ∀ w ∈ ws, IsWord w) : Spaced ws (unwords ws).toList := by
  induction ws with
  | nil => exact .blanks (by simp [unwords])
  | cons w ws ih =>
    obtain ⟨hw, hws⟩ := List.forall_mem_cons.1 h
    cases ws with
    | nil =>
      have hone := spaced_nil.cons_word hw (by simp)
      simpa [unwords] using hone
    | cons next ws =>
      have hblank : isBlank ' ' = true := by decide
      have hmore := ((ih hws).cons hblank).cons_word hw (by simpa using hblank)
      simpa [unwords, String.toList_append, List.append_assoc] using hmore

end TypeSchema.Text
