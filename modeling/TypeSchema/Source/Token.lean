/-!
# Tokens

Source text is read as trees of tokens: a pair of brackets and what stands between them is one
token. A punctuation character knows whether the next character is punctuation too, so that operators
of several characters stay together when tokens are written as text again.
-/

namespace TypeSchema.Source

/-- The brackets around a group. -/
inductive Delimiter where
  | parenthesis
  | bracket
  | brace
  deriving Repr, DecidableEq

/-- A token. -/
inductive Token where
  /-- A word. A raw word is no keyword, whatever its letters. -/
  | word (name : String) (raw : Bool)
  /-- A lifetime, with its apostrophe. -/
  | lifetime (text : String)
  /-- A punctuation character; a joint one belongs together with the next token. -/
  | punct (char : Char) (joint : Bool)
  /-- A literal, as it is written. -/
  | literal (text : String)
  /-- Tokens between brackets. -/
  | group (delimiter : Delimiter) (tokens : List Token)
  deriving Repr, Inhabited

namespace Token

/-- A word that is not raw. -/
def plain (name : String) : Token := .word name false

/-- The characters of an operator, each joined to the next one. -/
def operatorChars : List Char → List Token
  | [] => []
  | [c] => [.punct c false]
  | c :: rest => .punct c true :: operatorChars rest

/-- An operator. -/
def operator (text : String) : List Token := operatorChars text.toList

/-- The text of a word. -/
def wordText (name : String) (raw : Bool) : String := if raw then "r#" ++ name else name

mutual

/-- A token as text. -/
def text : Token → String
  | .word name raw => wordText name raw
  | .lifetime text => text
  | .punct c _ => String.singleton c
  | .literal text => text
  | .group .parenthesis tokens => "(" ++ textOf tokens ++ ")"
  | .group .bracket tokens => "[" ++ textOf tokens ++ "]"
  | .group .brace [] => "\x7b \x7d"
  | .group .brace (token :: rest) =>
    "\x7b " ++ text token ++ textAfter token rest ++ " \x7d"

/-- Tokens as text, with a blank between neighbours unless the first of them is joint. -/
def textOf : List Token → String
  | [] => ""
  | token :: rest => text token ++ textAfter token rest

/-- The text of the tokens after a token. -/
def textAfter : Token → List Token → String
  | _, [] => ""
  | .punct _ true, token :: rest => text token ++ textAfter token rest
  | _, token :: rest => " " ++ text token ++ textAfter token rest

end

mutual

/-- The number of tokens in a token, itself included. -/
def size : Token → Nat
  | .group _ tokens => sizes tokens + 1
  | _ => 1

/-- The number of tokens in a list, those in groups included. -/
def sizes : List Token → Nat
  | [] => 0
  | token :: rest => size token + sizes rest

end

end Token

end TypeSchema.Source
