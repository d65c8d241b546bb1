import TypeSchema.Text.Blank
import TypeSchema.Text.FilePath
import TypeSchema.Toml.Reader

/-!
# Manifests

A manifest says in a file what a run is to do: which sources to read, which types to write, and
where and how to write them. It is a TOML document with one section, and it may name nothing that is
not known.
-/

namespace TypeSchema

open Toml (Value)

/-- The section of a manifest. -/
structure Manifest where
  /-- The paths of the sources. -/
  sources : List String := []
  /-- The path of the document that is written. -/
  output : Option String := none
  /-- The types that are wanted; all of them if there are none. -/
  types : List String := []
  /-- Is the document written over several lines? -/
  pretty : Option Bool := none
  /-- How deep types may be nested. -/
  maxDepth : Option Nat := none
  deriving Repr, DecidableEq

/-- What is wrong with the values of a manifest. -/
inductive ManifestDefect where
  /-- No depth is allowed. -/
  | zeroDepth
  /-- A source has no path. -/
  | emptySource
  /-- A type has no name. -/
  | blankType
  deriving Repr, DecidableEq

/-- The wording of a defect. -/
def ManifestDefect.message : ManifestDefect → String
  | zeroDepth => "max_depth must be at least 1"
  | emptySource => "Source paths cannot be empty"
  | blankType => "Type names cannot be empty"

namespace Manifest

/-- The name of the file that is looked for if no manifest is named. -/
def defaultName : String := "koja.toml"

/-! ## Reading -/

/-- The greatest depth that can be given: one of 64 bits. -/
def depth? (v : Value) : Option Nat := v.natural?.filter (· < UInt64.size)

/-- Adds the value of one name. -/
def set (m : Manifest) (name : String) (v : Value) : Option Manifest :=
  match name with
  | "sources" => do return { m with sources := ← v.strings? }
  | "output" => do return { m with output := some (← v.string?) }
  | "types" => do return { m with types := ← v.strings? }
  | "pretty" => do return { m with pretty := some (← v.boolean?) }
  | "max_depth" => do return { m with maxDepth := some (← depth? v) }
  | _ => none

/-- The names in a section, in the order that a list of their values has. -/
def fieldNames : List String := ["sources", "output", "types", "pretty", "max_depth"]

/-- Reads the section: values by name, or a list of the first values. -/
def ofValue? : Value → Option Manifest
  | .table entries => entries.foldlM (fun m entry => m.set entry.1 entry.2) {}
  | .array items => (fieldNames.zip items).foldlM (fun m entry => m.set entry.1 entry.2) {}
  | _ => none

/-- Reads a manifest from its text. A document without the section says nothing. -/
def ofText? (text : String) : Option Manifest := do
  match ← Toml.read? text with
  | [] => return {}
  | [("schema", values)] => ofValue? values
  | _ => none

/-! ## Use -/

/-- The first thing that is wrong with the values, if anything is. -/
def defect? (m : Manifest) : Option ManifestDefect :=
  if m.maxDepth = some 0 then some .zeroDepth
  else if m.sources.any String.isEmpty then some .emptySource
  else if m.types.any Text.isAllBlank then some .blankType
  else none

/-- The manifest with its paths as they are seen from a directory. -/
def resolve (m : Manifest) (base : String) : Manifest :=
  { m with sources := m.sources.map (FilePath.join base),
           output := m.output.map (FilePath.join base) }

end Manifest

end TypeSchema
