import TypeSchema.Text.Printable

/-!
# Quoted text

A quoted text stands between double quotes. The quote and the backslash are escaped with a
backslash, some controls have a letter, any other character that is not plain is written by its
code point in braces, and all else stands for itself.
-/

namespace TypeSchema.Text

/-- The hexadecimal digits of a number, in lower case and without leading zeros. -/
def hexDigits (n : Nat) : List Char :=
  Nat.toDigits 16 n

/-- A character by its code point: a backslash, `u` and the hexadecimal digits in braces. -/
def codePointEscape (c : Char) : List Char :=
  ['\\', 'u', '\x7b'] ++ hexDigits c.toNat ++ ['\x7d']

/-- What is written for one character between double quotes. -/
def quotedChar (c : Char) : List Char :=
  match c with
  | '"' => ['\\', '"']
  | '\\' => ['\\', '\\']
  | '\t' => ['\\', 't']
  | '\n' => ['\\', 'n']
  | '\r' => ['\\', 'r']
  | c => if c.toNat == 0 then ['\\', '0'] else if isPlain c then [c] else codePointEscape c

/-- The text between double quotes. -/
def quoted (text : String) : String :=
  String.ofList ('"' :: (text.toList.flatMap quotedChar ++ ['"']))

/-- What is written for one character of a file path between double quotes: a single quote has a
backslash too. -/
def quotedPathChar (c : Char) : List Char := if c = '\'' then ['\\', c] else quotedChar c

/-- The file path between double quotes. -/
def quotedPath (path : String) : String :=
  String.ofList ('"' :: (path.toList.flatMap quotedPathChar ++ ['"']))

/-- What is written for the characters of a string literal: as between quotes, but before an octal
digit a null character is written with two hexadecimal digits. -/
def literalChars : List Char → List Char
  | [] => []
  | c :: rest =>
    (if c.toNat == 0 then
      match rest with
      | d :: _ => if '0' ≤ d && d ≤ '7' then ['\\', 'x', '0', '0'] else ['\\', '0']
      | [] => ['\\', '0']
    else quotedChar c) ++ literalChars rest

/-- The text as a string literal of a program. -/
def literal (text : String) : String :=
  String.ofList ('"' :: (literalChars text.toList ++ ['"']))

end TypeSchema.Text
