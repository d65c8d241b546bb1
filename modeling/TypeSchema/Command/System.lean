import TypeSchema.Log

/-!
# What a run needs of its surroundings

A run reads and writes files, and it has two outputs and a log. It is written for any surroundings
that offer these; it can then be run in memory as well as on a machine.
-/

namespace TypeSchema.Command

/-- Surroundings of a run. Paths are seen from the directory of the run. -/
structure System (m : Type → Type) where
  /-- The content of a file, if it can be read. -/
  read : String → m (Option String)
  /-- Is there a file or a directory? -/
  exists? : String → m Bool
  /-- Makes a directory and those on the way to it; says whether they are there then. -/
  makeDirectories : String → m Bool
  /-- Writes a file; says whether it is written. -/
  write : String → String → m Bool
  /-- Writes a line to the standard output. -/
  print : String → m Unit
  /-- Writes a line to the error output. -/
  complain : String → m Unit
  /-- Notes an event. -/
  log : Event → m Unit

/-- Notes the events of a computation. -/
def System.perform {m : Type → Type} [Monad m] (system : System m) {α : Type} (x : Logged α) :
    m α := do
  x.events.forM system.log
  return x.value

/-! ## The log -/

/-- The least important events that are shown, given how often more messages are asked for and, if
they are not, the name of a level. -/
def threshold (verbosity : Nat) (level : Option String) : Option Level :=
  match verbosity with
  | 0 =>
    match level with
    | none => some .warn
    | some "warn" => some .warn
    | some "info" => some .warn
    | some "debug" => some .debug
    | some "trace" => some .trace
    | some _ => none
  | 1 => some .debug
  | _ => some .trace

/-- Is an event of one level shown if those down to another are? -/
def isShown (threshold : Option Level) (level : Level) : Bool :=
  match threshold with
  | none => false
  | some least => level.rank ≤ least.rank

end TypeSchema.Command
