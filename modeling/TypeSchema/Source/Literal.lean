import TypeSchema.Source.Lexer

/-!
# Literals

What the lexeme of a literal says: the text of a string literal, and whether a number can be the
index of a field.
-/

namespace TypeSchema.Source.Literal

open Lexer (codePoint? hexValue startsWith)

/-- The character that a letter after a backslash stands for. -/
def simpleEscape? : Char → Option Char
  | 'n' => some '\n'
  | 'r' => some '\r'
  | 't' => some '\t'
  | '0' => some (Char.ofNat 0)
  | '\\' => some '\\'
  | '\'' => some '\''
  | '"' => some '"'
  | _ => none

/-- Is the character skipped at the start of a continued line? -/
def isLineBlank (c : Char) : Bool := c == ' ' || c == '\t' || c == '\n' || c == '\r'

/-- The characters of a literal up to its closing quote, with the escapes applied. -/
def charsFrom : (fuel : Nat) → (read : List Char) → List Char → Option (List Char)
  | 0, _, _ => none
  | _ + 1, _, [] => none
  | _ + 1, read, '"' :: _ => some read.reverse
  | fuel + 1, read, '\\' :: c :: rest =>
    if c == 'x' then
      match rest with
      | a :: b :: rest => charsFrom fuel (Char.ofNat (hexValue a * 16 + hexValue b) :: read) rest
      | _ => none
    else if c == 'u' then do
      let (n, rest) ← codePoint? rest
      charsFrom fuel (Char.ofNat n :: read) rest
    else if c == '\n' || c == '\r' then charsFrom fuel read (rest.dropWhile isLineBlank)
    else do charsFrom fuel ((← simpleEscape? c) :: read) rest
  | fuel + 1, read, '\r' :: '\n' :: rest => charsFrom fuel ('\n' :: read) rest
  | fuel + 1, read, c :: rest => charsFrom fuel (c :: read) rest

/-- The characters of a literal without escapes, up to the quote that the closing marks follow. -/
def rawCharsFrom (marks : List Char) : List Char → List Char
  | [] => []
  | c :: rest =>
    if c == '"' && marks.isPrefixOf rest then [] else c :: rawCharsFrom marks rest

/-- The text of a string literal; no other literal has one. -/
def string? (lexeme : String) : Option String :=
  match lexeme.toList with
  | '"' :: rest => (charsFrom (rest.length + 1) [] rest).map String.ofList
  | 'r' :: rest =>
    let marks := rest.takeWhile (· == '#')
    some (String.ofList (rawCharsFrom marks (rest.drop (marks.length + 1))))
  | _ => none

/-- Is the literal a number? -/
def isNumber (lexeme : String) : Bool :=
  match lexeme.toList with
  | c :: _ => c.isDigit
  | [] => false

/-- Is the text a whole number without a suffix? -/
def isIndex (text : List Char) : Bool := Lexer.wholeDigits text == some []

/-- Is the literal a number with a point or an exponent? -/
def isFraction (lexeme : String) : Bool :=
  ((Lexer.fractionDigits lexeme.toList).bind Lexer.endNumber).isSome

/-- The parts of a text between points. -/
def splitAtPoints : List Char → List (List Char)
  | [] => [[]]
  | c :: rest =>
    let parts := splitAtPoints rest
    if c == '.' then [] :: parts
    else match parts with
      | first :: later => (c :: first) :: later
      | [] => [[c]]

end TypeSchema.Source.Literal
