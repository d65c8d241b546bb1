import TypeSchema.Toml.Scalar
import TypeSchema.Toml.Section
import TypeSchema.Toml.Text

/-!
# Reading TOML

A document consists of lines: a header names the table that the lines after it add to, and any other
line gives a value to a key. Values may be lists and tables themselves, and these may go over several
lines. A document is read as a whole or not at all.
-/

namespace TypeSchema.Toml

namespace Reader

mutual

/-- A value. -/
def value : (fuel : Nat) → List Char → Option (Value × List Char)
  | 0, _ => none
  | fuel + 1, text =>
    match text with
    | '[' :: rest => items fuel [] rest
    | '\x7b' :: rest => members fuel [] rest
    | '"' :: _ => do
      let (t, rest) ← text? text
      return (.string t, rest)
    | '\'' :: _ => do
      let (t, rest) ← text? text
      return (.string t, rest)
    | _ => Scalar.read text

/-- The items of a list up to its bracket. `read` holds those before, in reverse. -/
def items : (fuel : Nat) → (read : List Value) → List Char → Option (Value × List Char)
  | 0, _, _ => none
  | fuel + 1, read, text => do
    match ← skipLines (text.length + 1) text with
    | ']' :: rest => return (.array read.reverse, rest)
    | rest => do
      let (item, rest) ← value fuel rest
      match ← skipLines (rest.length + 1) rest with
      | ',' :: rest => items fuel (item :: read) rest
      | ']' :: rest => return (.array (item :: read).reverse, rest)
      | _ => none

/-- The members of a table up to its brace. `read` holds those before. -/
def members : (fuel : Nat) → (read : Entries) → List Char → Option (Value × List Char)
  | 0, _, _ => none
  | fuel + 1, read, text => do
    match ← skipLines (text.length + 1) text with
    | '\x7d' :: rest => return (.table (Entry.completeAll read), rest)
    | rest => do
      let (path, rest) ← key? (rest.length + 1) rest
      let rest ← Json.Reader.char? '=' (skipBlanks rest)
      let (member, rest) ← value fuel (skipBlanks rest)
      let read ← read.add member path
      match ← skipLines (rest.length + 1) rest with
      | ',' :: rest => members fuel read rest
      | '\x7d' :: rest => return (.table (Entry.completeAll read), rest)
      | _ => none

end

/-- A document while it is read: what its tables hold, and the table that lines add to. -/
structure Document where
  /-- What the tables hold. -/
  entries : Entries := []
  /-- The way to the table that lines add to. -/
  current : Path := []

/-- The names in a header and the text after its line. -/
def header (text : List Char) (closing : List Char) : Option (Path × List Char) := do
  let (path, rest) ← key? (text.length + 1) text
  let rest ← Json.Reader.word? closing (skipBlanks rest)
  return (path, ← endLine rest)

/-- A line: a header, a key with its value, or nothing. -/
def line (document : Document) (text : List Char) : Option (Document × List Char) := do
  match skipBlanks text with
  | '[' :: '[' :: rest =>
    let (path, rest) ← header rest [']', ']']
    return (⟨← document.entries.append path, path⟩, rest)
  | '[' :: rest =>
    let (path, rest) ← header rest [']']
    return (⟨← document.entries.define path, path⟩, rest)
  | text =>
    match endLine text with
    | some rest => return (document, rest)
    | none =>
      let (path, rest) ← key? (text.length + 1) text
      let rest := skipBlanks (← Json.Reader.char? '=' (skipBlanks rest))
      let (v, rest) ← value (2 * rest.length + 2) rest
      let entries ← document.entries.enterAll (Entries.add v path) document.current
      return ({ document with entries }, ← endLine rest)

/-- All lines. -/
def lines : (fuel : Nat) → Document → List Char → Option Document
  | _, document, [] => some document
  | 0, _, _ => none
  | fuel + 1, document, text => do
    let (document, rest) ← line document text
    lines fuel document rest

end Reader

/-- Reads a document. A mark of the byte order at its start says nothing. -/
def read? (text : String) : Option (List (String × Value)) := do
  let text := match text.toList with
    | '\ufeff' :: rest => rest
    | text => text
  let document ← Reader.lines (text.length + 1) {} text
  return Entry.completeAll document.entries

end TypeSchema.Toml
