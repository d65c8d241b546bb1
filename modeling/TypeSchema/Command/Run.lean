import TypeSchema.Command.System
import TypeSchema.Command.Usage
import TypeSchema.Settings
import TypeSchema.Source.Table

/-!
# Runs

A run settles what is to be done, reads the sources into one table, and generates the schemas of the
types in it. One command writes them as a document, if all types have one; the other reports what is
wrong with any type.
-/

namespace TypeSchema.Command

/-- Why a run fails. -/
inductive RunError where
  /-- A source cannot be read. -/
  | unreadSource (path : String)
  /-- A source has no meaning. -/
  | malformedSource (path : String)
  /-- The manifest cannot be read. -/
  | unreadManifest (path : String)
  /-- The manifest has no meaning. -/
  | malformedManifest (path : String)
  /-- A value of the manifest is wrong. -/
  | manifest (defect : ManifestDefect)
  /-- There are no sources. -/
  | noSources
  /-- The wanted types are not there. -/
  | selection (error : SourceTable.SelectionError)
  /-- Types have no schema. -/
  | batch (error : BatchError)
  /-- The directory of the document cannot be made. -/
  | unmadeDirectory (path : String)
  /-- The document cannot be written. -/
  | unwrittenDocument (path : String)
  /-- Problems were reported. -/
  | problems (count : Nat)
  deriving Repr, DecidableEq

/-- The wording of an error. -/
def RunError.message : RunError → String
  | unreadSource path => "Failed to read " ++ Text.quotedPath path
  | malformedSource path => "Failed to parse " ++ Text.quotedPath path
  | unreadManifest path => "Failed to read manifest: " ++ Text.quotedPath path
  | malformedManifest path => "Invalid manifest: " ++ Text.quotedPath path
  | manifest defect => defect.message
  | noSources => Settings.noSourcesMessage
  | selection e => e.message
  | batch e => e.message
  | unmadeDirectory path => "Failed to create directory " ++ Text.quotedPath path
  | unwrittenDocument path => "Failed to write " ++ Text.quotedPath path
  | problems count => s!"{count} problem(s) found"

section

variable {m : Type → Type} [Monad m] (system : System m)

/-- Notes the events of a computation that cannot fail. -/
def perform {α : Type} (x : Logged α) : ExceptT RunError m α := ExceptT.lift (system.perform x)

/-- The manifest of a file, with its paths as they are seen from the directory of the run. What is
wrong with its values is looked for in these paths. -/
def readManifest (path : String) : ExceptT RunError m Manifest := do
  let some text ← system.read path | throw (.unreadManifest path)
  let some manifest := Manifest.ofText? text | throw (.malformedManifest path)
  let manifest := match FilePath.parent? path with
    | some base => manifest.resolve base
    | none => manifest
  if let some defect := manifest.defect? then throw (.manifest defect)
  system.log (.manifestLoaded path manifest.sources.length)
  return manifest

/-- The manifest that is named, or the one of the usual name if it is there. -/
def loadManifest (named : Option String) : ExceptT RunError m (Option Manifest) := do
  match named with
  | some path => return some (← readManifest system path)
  | none =>
    if ← system.exists? Manifest.defaultName then
      return some (← readManifest system Manifest.defaultName)
    else
      system.log (.noManifest Manifest.defaultName)
      return none

/-- The settings of a run. -/
def settle (manifest : Option String) (overrides : Overrides) : ExceptT RunError m Settings := do
  let manifest ← loadManifest system manifest
  let some settings := Settings.resolve? manifest overrides | throw .noSources
  return settings

/-- Adds the types in the sources to a table. -/
def readSources (table : SourceTable) : List String → ExceptT RunError m SourceTable
  | [] => return table
  | path :: rest => do
    let some text ← system.read path | throw (.unreadSource path)
    let some added := table.addText? text | throw (.malformedSource path)
    readSources (← perform system added) rest

/-- Writes a document to a file or to the standard output. `count` is the number of schemas in it. -/
def writeDocument (output : Option String) (count : Nat) (document : String) :
    ExceptT RunError m Unit := do
  match output with
  | none => system.print document
  | some path =>
    if let some parent := (FilePath.parent? path).filter (!·.isEmpty) then
      unless ← system.makeDirectories parent do throw (.unmadeDirectory parent)
    unless ← system.write path (document ++ "\n") do throw (.unwrittenDocument path)
    system.print s!"✓ Wrote {count} schema(s) to {path}"

/-- Writes the schemas of the wanted types, if all of them have one. -/
def generate (manifest : Option String) (overrides : Overrides) : ExceptT RunError m Unit := do
  let settings ← settle system manifest overrides
  let table ← readSources system .empty settings.sources
  let names ← match table.select settings.types with
    | .ok names => pure names
    | .error e => throw (.selection e)
  system.log (.runStarted names.length settings.sources.length)
  let outcome ← perform system (table.collect names settings.config)
  match outcome.toExcept with
  | .error e => throw (.batch e)
  | .ok schemas =>
    writeDocument system settings.output schemas.size (SourceTable.render schemas settings.pretty)

/-- Reports what is wrong with the types that derive a schema. -/
def check (manifest : Option String) (inputs : List String) : ExceptT RunError m Unit := do
  let settings ← settle system manifest { inputs }
  let table ← readSources system .empty settings.sources
  let names := table.eligibleNames
  system.print s!"Checking {names.length} type(s) from {settings.sources.length} file(s)"
  let outcome ← perform system (table.collect names settings.config)
  outcome.failures.forM fun (name, failure) =>
    system.complain (s!"error: {name}: " ++ failure.message)
  outcome.schemas.keys.forM fun name =>
    unless outcome.failures.any (·.1 == name) do system.print s!"✓ {name}"
  unless outcome.isSuccess do throw (.problems outcome.failures.length)
  system.print "\nAll types are valid!"

/-- Runs a command. -/
def Invocation.run (invocation : Invocation) : ExceptT RunError m Unit :=
  let options := invocation.options
  match invocation.name with
  | .generate => generate system options.manifest
      { inputs := options.inputs, output := options.output, types := options.types,
        compact := options.compact }
  | .check => check system options.manifest options.inputs

end

/-- How often a command line asks for more messages. -/
def verbosity (arguments : List String) : Nat :=
  match read {} arguments with
  | .ok invocation => invocation.options.verbosity
  | .error _ => 0

/-- Does what a command line says, and gives the exit code: zero if all went well, two if the command
line is not understood, and one if the run fails. -/
def execute {m : Type → Type} [Monad m] (system : System m) (arguments : List String) : m Nat := do
  match read {} arguments with
  | .error (.help topic) =>
    system.print (helpText topic)
    return 0
  | .error .version =>
    system.print versionText
    return 0
  | .error (.usage e) =>
    system.complain ("error: " ++ e.message)
    return 2
  | .ok invocation =>
    match ← (invocation.run system).run with
    | .ok () => return 0
    | .error e =>
      system.complain ("Error: " ++ e.message)
      return 1

end TypeSchema.Command
