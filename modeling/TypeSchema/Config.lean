import TypeSchema.Json.Reader
import TypeSchema.Json.Value

/-!
# Configuration of the generator

The configuration is an object with one member, the greatest depth a type may have. It can be read
from JSON: a missing member has its default, other members are ignored, and a list stands for the
members in order. A member may not be given twice.
-/

namespace TypeSchema

/-- What the generator can be told. -/
structure GeneratorConfig where
  /-- How deep types may be nested. -/
  maxDepth : Nat := 64
  deriving Repr, DecidableEq

namespace GeneratorConfig

/-- The configuration as JSON. -/
def toJson (config : GeneratorConfig) : Json :=
  .object [("max_depth", .number config.maxDepth)]

open Json.Reader in
/-- Reads the depth: a natural number of at most 64 bits. -/
def readDepth (text : List Char) : Option (Nat × List Char) := do
  let (n, rest) ← natural text
  if n < UInt64.size then some (n, rest) else none

open Json.Reader in
/-- Reads the members after the brace that opens the object. `depth` is what was read of the
configuration so far, and a member must follow if a comma was read. -/
def readMembers : (fuel : Nat) → (afterComma : Bool) → (depth : Option Nat) → List Char →
    Option (GeneratorConfig × List Char)
  | 0, _, _, _ => none
  | fuel + 1, afterComma, depth, text =>
    match skipBlanks text with
    | '}' :: rest => if afterComma then none else some ({ maxDepth := depth.getD 64 }, rest)
    | '"' :: rest => do
      let (name, rest) ← string rest
      let rest ← char? ':' (skipBlanks rest)
      let (depth, rest) ←
        if name = "max_depth" then
          if depth.isSome then none
          else (readDepth (skipBlanks rest)).map fun (n, rest) => (some n, rest)
        else (skipValue (skipBlanks rest)).map fun rest => (depth, rest)
      match skipBlanks rest with
      | ',' :: rest => readMembers fuel true depth rest
      | '}' :: rest => some ({ maxDepth := depth.getD 64 }, rest)
      | _ => none
    | _ => none

open Json.Reader in
/-- Reads a configuration written as an object or as a list. -/
def readValue (text : List Char) : Option (GeneratorConfig × List Char) :=
  match text with
  | '{' :: rest => readMembers text.length false none rest
  | '[' :: rest =>
    match skipBlanks rest with
    | ']' :: rest => some ({}, rest)
    | rest => do
      let (n, rest) ← readDepth rest
      let rest ← char? ']' (skipBlanks rest)
      return ({ maxDepth := n }, rest)
  | _ => none

open Json.Reader in
/-- Reads a configuration from JSON. The empty text stands for the default. -/
def ofJson? (text : String) : Option GeneratorConfig :=
  if text.isEmpty then some {}
  else do
    let (config, rest) ← readValue (skipBlanks text.toList)
    if (skipBlanks rest).isEmpty then some config else none

end GeneratorConfig

end TypeSchema
