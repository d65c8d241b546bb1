import TypeSchema.Config
import TypeSchema.Manifest

/-!
# Settings of a run

What a run does is settled by a manifest and by what is said on the command line; each thing that is
said there counts more than the manifest.
-/

namespace TypeSchema

/-- What is said on the command line. -/
structure Overrides where
  /-- The paths of the sources. -/
  inputs : List String := []
  /-- The path of the document that is written. -/
  output : Option String := none
  /-- The types that are wanted. -/
  types : List String := []
  /-- Is the document written on one line? -/
  compact : Bool := false
  deriving Repr, DecidableEq

/-- What a run does. -/
structure Settings where
  /-- The paths of the sources. -/
  sources : List String
  /-- The path of the document; without one it goes to the standard output. -/
  output : Option String
  /-- The types that are wanted; all of them if there are none. -/
  types : List String
  /-- Is the document written over several lines? -/
  pretty : Bool
  /-- What the generator is told. -/
  config : GeneratorConfig
  deriving Repr, DecidableEq

namespace Settings

/-- The wording of the one thing that can be missing: sources. -/
def noSourcesMessage : String :=
  "No input files: pass -i <file.rs> or set `sources` in the [schema] section of " ++
    Manifest.defaultName

/-- The settings of a run, if there are sources. -/
def resolve? (manifest : Option Manifest) (overrides : Overrides) : Option Settings :=
  let m := manifest.getD {}
  let sources := if overrides.inputs.isEmpty then m.sources else overrides.inputs
  if sources.isEmpty then none
  else some
    { sources,
      output := overrides.output <|> m.output,
      types := if overrides.types.isEmpty then m.types else overrides.types,
      pretty := !overrides.compact && m.pretty.getD true,
      config := match m.maxDepth with | some n => { maxDepth := n } | none => {} }

end Settings

end TypeSchema
