import TypeSchema.Error
import TypeSchema.Text.Quoted

/-!
# Events

What the library has to tell beside its answers: each step of note is an event with a level. Events
are values that stand beside an answer, in the order in which they came about.
-/

namespace TypeSchema

/-- How important an event is, the most important first. -/
inductive Level where
  | warn
  | debug
  | trace
  deriving Repr, DecidableEq

namespace Level

/-- The name of a level. -/
def name : Level → String
  | warn => "WARN"
  | debug => "DEBUG"
  | trace => "TRACE"

/-- The rank of a level; a larger one is less important. -/
def rank : Level → Nat
  | warn => 1
  | debug => 2
  | trace => 3

end Level

/-- A step of note. -/
inductive Event where
  /-- A type definition was read from a source. -/
  | typeParsed (name : String) (eligible : Bool)
  /-- A later definition took the place of an earlier one. -/
  | typeRedefined (name : String)
  /-- Documentation took the place of earlier documentation. -/
  | docReplaced (identity : String)
  /-- A registry was completed. -/
  | registryBuilt (entries : Nat)
  /-- A descriptor failed validation. -/
  | descriptorRejected (identity : String) (error : ValidationError)
  /-- The generator came to a descriptor. -/
  | generating (identity kind : String) (depth : Nat)
  /-- The schema of a validated type is about to be generated. -/
  | generatingType (identity : String) (documented : Nat)
  /-- A type of a batch has its schema. -/
  | generated (identity : String)
  /-- A type of a batch has no schema. -/
  | generationFailed (identity : String) (failure : Failure)
  /-- No manifest was named and there is none of the usual name. -/
  | noManifest (name : String)
  /-- A manifest was read. -/
  | manifestLoaded (path : String) (sources : Nat)
  /-- A run starts to generate. -/
  | runStarted (types files : Nat)
  deriving Repr, DecidableEq

namespace Event

/-- The level of an event. -/
def level : Event → Level
  | typeRedefined _ => .warn
  | docReplaced _ => .warn
  | typeParsed _ _ => .trace
  | generating _ _ _ => .trace
  | _ => .debug

/-- What happened, with its circumstances as names and values. -/
def text : Event → String
  | typeParsed name eligible => s!"parsed type name={name} eligible={eligible}"
  | typeRedefined name =>
    s!"type defined more than once; the last definition wins name={name}"
  | docReplaced identity => s!"replacing documentation registered twice identity={identity}"
  | registryBuilt entries => s!"documentation registry built entries={entries}"
  | descriptorRejected identity error =>
    "descriptor rejected identity=" ++ Text.quoted identity ++ " error=" ++ error.message
  | generating identity kind depth =>
    "generating schema identity=" ++ Text.quoted identity ++ " kind=" ++ Text.quoted kind ++
      s!" depth={depth}"
  | generatingType identity documented =>
    "generating schema identity=" ++ Text.quoted identity ++ s!" documented={documented}"
  | generated identity => "schema generated identity=" ++ Text.quoted identity
  | generationFailed identity failure =>
    "schema generation failed identity=" ++ Text.quoted identity ++ " error=" ++ failure.message
  | noManifest name => s!"no {name} in working directory"
  | manifestLoaded path sources =>
    "manifest loaded manifest=" ++ Text.quotedPath path ++ s!" sources={sources}"
  | runStarted types files => s!"generating schemas types={types} files={files}"

/-- The line of an event: its level and its text. -/
def line (e : Event) : String := e.level.name ++ " " ++ e.text

end Event

/-- A value and the events on the way to it. -/
structure Logged (α : Type) where
  /-- The value. -/
  value : α
  /-- The events, in order. -/
  events : List Event := []

namespace Logged

instance : Monad Logged where
  pure a := ⟨a, []⟩
  bind x f := ⟨(f x.value).value, x.events ++ (f x.value).events⟩

/-- An event and nothing else. -/
def emit (e : Event) : Logged Unit := ⟨(), [e]⟩

end Logged

/-- A computation that can fail, with the events up to its end. -/
abbrev Attempt (ε α : Type) := ExceptT ε Logged α

namespace Attempt

variable {ε α : Type}

/-- The outcome without the events. -/
def result (x : Attempt ε α) : Except ε α := (ExceptT.run x).value

/-- The events without the outcome. -/
def events (x : Attempt ε α) : List Event := (ExceptT.run x).events

/-- An event on the way. -/
def emit (e : Event) : Attempt ε Unit := ExceptT.lift (Logged.emit e)

/-- The outcome of a computation without events. -/
def ofExcept (x : Except ε α) : Attempt ε α := ExceptT.mk (pure x)

/-- Computes with the error in another form. -/
def mapError {δ : Type} (f : ε → δ) (x : Attempt ε α) : Attempt δ α :=
  ExceptT.mk ⟨match x.result with | .ok a => .ok a | .error e => .error (f e), x.events⟩

end Attempt

end TypeSchema
