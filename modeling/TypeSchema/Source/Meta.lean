import TypeSchema.Source.Grammar

/-!
# Keys of attributes

The arguments of an attribute are keys with commas between them; a key may have a value or a list in
parentheses. The keys are read one by one, and those before the first place that is wrong count even
if the rest cannot be read.
-/

namespace TypeSchema.Source

/-- A key in the arguments of an attribute. -/
structure AttributeKey where
  /-- Does the path start with a double colon? -/
  rooted : Bool := false
  /-- The path. -/
  path : List Identifier
  deriving Repr, DecidableEq

namespace AttributeKey

/-- Is the key the given word? -/
def isNamed (key : AttributeKey) (word : String) : Bool := isWordPath key.rooted key.path word

end AttributeKey

/-- The keys of an attribute, as far as they can be read. -/
structure AttributeKeys where
  /-- The keys in order. A key counts as soon as its path is read. -/
  keys : List AttributeKey
  /-- Could everything be read? -/
  complete : Bool
  deriving Repr, DecidableEq

namespace Grammar

open TypeSchema.Source.Parser

/-- The path of a key. Any word may stand in it. -/
def keyPath : Parser AttributeKey := do
  let rooted ← operator? "::"
  let path ← iterate (fun read : List Identifier => do
    let read := (← anyWord) :: read
    if ← operator? "::" then return .inl read else return .inr read.reverse) []
  return { rooted, path }

/-- What follows the path of a key: a value, which is not kept, a list in parentheses, or nothing. -/
def keyValue (rules : Rules) : Parser Unit := do
  if ← peekOperator "=" then
    operator "="
    discard (aside rules.expression)
  else if ← peekGroup .parenthesis then group .parenthesis (discard everything)

/-- What stands between two keys: is there another key? -/
def afterKey : Parser Bool := do
  if ← atEnd then return false
  operator ","
  return !(← atEnd)

/-- The keys from a place on. `read` holds those before it, in reverse. -/
def keysFrom (rules : Rules) : (fuel : Nat) → (read : List AttributeKey) → ParseState → AttributeKeys
  | 0, read, _ => ⟨read.reverse, false⟩
  | fuel + 1, read, s =>
    match keyPath.run s with
    | none => ⟨read.reverse, false⟩
    | some (key, s) =>
      let read := key :: read
      match (do keyValue rules; afterKey : Parser Bool).run s with
      | none => ⟨read.reverse, false⟩
      | some (true, s) => keysFrom rules fuel read s
      | some (false, s) => ⟨read.reverse, s.complete⟩

end Grammar

namespace Attribute

/-- The keys of an attribute. One without a list has none and is not complete. -/
def keys (a : Attribute) : AttributeKeys :=
  match a.body with
  | .list [] => ⟨[], true⟩
  | .list tokens =>
    Grammar.keysFrom (Rules.build (16 * (Token.sizes tokens + 1))) (tokens.length + 1) []
      { rest := tokens }
  | _ => ⟨[], false⟩

/-- Does the attribute derive an implementation of the given name? -/
def derives (a : Attribute) (name : String) : Bool :=
  match a.body with
  | .list tokens =>
    a.isNamed "derive" &&
      match Grammar.run? (fun rules => Parser.listToEnd (Grammar.path rules false)) tokens with
      | some paths => paths.any fun path => path.last.isWord name
      | none => false
  | _ => false

/-- The text of the doc comments among attributes: one line for each, if there is any. -/
def docText (attributes : List Attribute) : Option String :=
  let lines := attributes.filterMap fun a =>
    match a.body with
    | .value text => if a.isNamed "doc" then text else none
    | _ => none
  if lines.isEmpty then none else some (String.intercalate "\n" lines)

end Attribute

/-! ## Keys that bear on schemas -/

namespace AttributeKey

/-- Does the key say that there is a default? -/
def isDefault (key : AttributeKey) : Bool := key.isNamed "default"

/-- Does the key change a name? -/
def isRename (key : AttributeKey) : Bool := key.isNamed "rename" || key.isNamed "rename_all"

/-- Does the key leave out what it belongs to? -/
def isSkip (key : AttributeKey) : Bool :=
  key.isNamed "skip" || key.isNamed "skip_serializing" || key.isNamed "skip_deserializing"

/-- Does the key inline what it belongs to? -/
def isFlatten (key : AttributeKey) : Bool := key.isNamed "flatten"

end AttributeKey

/-- What attributes say of the form in which values are written. -/
structure SerdeFlags where
  /-- Is there a default? -/
  optional : Bool := false
  /-- Is a name changed? -/
  renamed : Bool := false
  /-- Is it left out? -/
  skipped : Bool := false
  /-- Is it inlined? -/
  flattened : Bool := false
  deriving Repr, DecidableEq

namespace SerdeFlags

/-- Adds what a key says. A `koja` attribute can only say that there is a default. -/
def add (serde : Bool) (flags : SerdeFlags) (key : AttributeKey) : SerdeFlags where
  optional := flags.optional || key.isDefault
  renamed := flags.renamed || serde && key.isRename
  skipped := flags.skipped || serde && key.isSkip
  flattened := flags.flattened || serde && key.isFlatten

/-- What `serde` and `koja` attributes say together. What cannot be read says nothing. -/
def ofAttributes (attributes : List Attribute) : SerdeFlags :=
  attributes.foldl (fun flags a =>
    if a.isNamed "serde" then a.keys.keys.foldl (add true) flags
    else if a.isNamed "koja" then a.keys.keys.foldl (add false) flags
    else flags) {}

end SerdeFlags

end TypeSchema.Source
