/-!
# Blanks and words

The blanks are the 25 code points with the Unicode property White_Space. A text is read as its
words: the maximal runs of characters that are no blanks.
-/

namespace TypeSchema.Text

/-- The Unicode property White_Space. -/
def isBlank (c : Char) : Bool :=
  let n := c.toNat
  (0x09 ≤ n && n ≤ 0x0d) || n == 0x20 || n == 0x85 || n == 0xa0 || n == 0x1680 ||
    (0x2000 ≤ n && n ≤ 0x200a) || n == 0x2028 || n == 0x2029 || n == 0x202f || n == 0x205f ||
    n == 0x3000

/-- Splits off the first word: `word` collects its characters so far, in reverse. A word is pushed
only if it holds a character, so runs of blanks leave no empty words. -/
def wordsFrom (word : List Char) : List Char → List (List Char)
  | [] => if word.isEmpty then [] else [word.reverse]
  | c :: rest =>
    if isBlank c then
      if word.isEmpty then wordsFrom [] rest else word.reverse :: wordsFrom [] rest
    else wordsFrom (c :: word) rest

/-- The words of a text, in order. -/
def words (text : String) : List String :=
  (wordsFrom [] text.toList).map String.ofList

/-- The words, with one blank between neighbours. -/
def unwords (ws : List String) : String :=
  String.intercalate " " ws

/-- Does the text consist of blanks only? -/
def isAllBlank (text : String) : Bool :=
  text.toList.all isBlank

end TypeSchema.Text
