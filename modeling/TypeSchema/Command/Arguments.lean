/-!
# The command line

A command line names a command and gives options. An option has a long name after two hyphens, and
most have a letter after one hyphen; letters may share a hyphen. Values stand behind an option, or
are attached to it. Nothing may stand on the command line that has no meaning there, and options that
say one thing may be given once only.
-/

namespace TypeSchema.Command

/-- The commands. -/
inductive Name where
  /-- Write the schemas of types. -/
  | generate
  /-- Report what is wrong with types. -/
  | check
  deriving Repr, DecidableEq

namespace Name

/-- All of them. -/
def all : List Name := [generate, check]

/-- The word for a command. -/
def word : Name → String
  | generate => "generate"
  | check => "check"

end Name

/-- What a command line says. -/
structure Options where
  /-- The paths of the sources. -/
  inputs : List String := []
  /-- The path of the document that is written. -/
  output : Option String := none
  /-- The types that are wanted. -/
  types : List String := []
  /-- Is the document written on one line? -/
  compact : Bool := false
  /-- The path of the manifest. -/
  manifest : Option String := none
  /-- How often more messages are asked for. -/
  verbosity : Nat := 0
  deriving Repr, DecidableEq

/-- A command with its options. -/
structure Invocation where
  /-- The command. -/
  name : Name
  /-- Its options. -/
  options : Options
  deriving Repr, DecidableEq

/-- Why a command line is not understood. -/
inductive UsageError where
  /-- No command is named. -/
  | noCommand
  /-- There is no command of the name. -/
  | unknownCommand (word : String)
  /-- An argument has no meaning where it stands. -/
  | unexpected (argument : String)
  /-- An option lacks its value. -/
  | missingValue (option : String)
  /-- An option takes no value. -/
  | unexpectedValue (option : String)
  /-- An option may be given once only. -/
  | repeated (option : String)
  deriving Repr, DecidableEq

/-- The wording of an error. -/
def UsageError.message : UsageError → String
  | noCommand => "a command is required"
  | unknownCommand word => s!"unrecognized command '{word}'"
  | unexpected argument => s!"unexpected argument '{argument}'"
  | missingValue option => s!"a value is required for '--{option}'"
  | unexpectedValue option => s!"no value is possible for '--{option}'"
  | repeated option => s!"'--{option}' cannot be used multiple times"

/-- Why no command is run. -/
inductive Halt where
  /-- The command line is not understood. -/
  | usage (error : UsageError)
  /-- Help is asked for, with all commands or with one. -/
  | help (topic : Option Name)
  /-- The version is asked for. -/
  | version
  deriving Repr, DecidableEq

/-! ## Options -/

/-- The options of all commands. -/
inductive Switch where
  | input
  | output
  | type
  | compact
  | manifest
  | verbose
  | help
  | version
  deriving Repr, DecidableEq

/-- How many values an option takes. -/
inductive Arity where
  | none
  | one
  | several
  deriving Repr, DecidableEq

namespace Switch

/-- The long name. -/
def long : Switch → String
  | input => "input"
  | output => "output"
  | type => "type"
  | compact => "compact"
  | manifest => "manifest"
  | verbose => "verbose"
  | help => "help"
  | version => "version"

/-- The letter, if there is one. -/
def letter? : Switch → Option Char
  | input => some 'i'
  | output => some 'o'
  | type => some 't'
  | compact => Option.none
  | manifest => some 'm'
  | verbose => some 'v'
  | help => some 'h'
  | version => some 'V'

/-- How many values it takes. -/
def arity : Switch → Arity
  | input => .several
  | output | type | manifest => .one
  | compact | verbose | help | version => .none

/-- The options that may stand before a command. -/
def general : List Switch := [verbose, help, version]

end Switch

/-- The options of a command. -/
def Name.switches : Name → List Switch
  | .generate => [.input, .output, .type, .compact, .manifest, .verbose, .help]
  | .check => [.input, .manifest, .verbose, .help]

namespace Options

/-- Gives a value to an option. A path may not be empty. -/
def give (options : Options) (switch : Switch) (value : String) : Except Halt Options :=
  let missing : Except Halt Options := .error (.usage (.missingValue switch.long))
  let once (old : Option String) (new : Options) : Except Halt Options :=
    if value.isEmpty then missing
    else if old.isSome then .error (.usage (.repeated switch.long))
    else .ok new
  match switch with
  | .input =>
    if value.isEmpty then missing else .ok { options with inputs := options.inputs ++ [value] }
  | .output => once options.output { options with output := some value }
  | .manifest => once options.manifest { options with manifest := some value }
  | .type => .ok { options with types := options.types ++ [value] }
  | .compact | .verbose | .help | .version => .error (.usage (.unexpectedValue switch.long))

/-- Sets an option that takes no value. `topic` is the command that it stands behind. -/
def set (topic : Option Name) (options : Options) : Switch → Except Halt Options
  | .compact =>
    if options.compact then .error (.usage (.repeated Switch.compact.long))
    else .ok { options with compact := true }
  | .verbose => .ok { options with verbosity := options.verbosity + 1 }
  | .help => .error (.help topic)
  | .version => .error .version
  | switch => .error (.usage (.missingValue switch.long))

end Options

/-! ## Reading -/

/-- An option that values may follow, and whether one has. -/
structure Pending where
  /-- The option. -/
  switch : Switch
  /-- Has a value followed? -/
  given : Bool := false
  deriving Repr, DecidableEq

/-- What was read of the options behind a command, or before it. -/
structure State where
  /-- What they say. -/
  options : Options := {}
  /-- The option that values may follow. -/
  pending : Option Pending := none
  deriving Repr, DecidableEq

/-- What an argument is, by its form. -/
inductive Argument where
  /-- Two hyphens: no options follow. -/
  | escape
  /-- A long name, with the value that is attached to it. -/
  | long (name : String) (value : Option String)
  /-- Letters, and what may be attached to them. -/
  | letters (letters : List Char)
  /-- Anything else. -/
  | word (text : String)
  deriving Repr, DecidableEq

/-- The form of an argument. -/
def Argument.ofText (text : String) : Argument :=
  match text.toList with
  | ['-', '-'] => .escape
  | '-' :: '-' :: rest =>
    let name := rest.takeWhile (· != '=')
    let value := rest.dropWhile (· != '=')
    .long (String.ofList name) (if value.isEmpty then none else some (String.ofList (value.drop 1)))
  | ['-'] => .word text
  | '-' :: rest => .letters rest
  | _ => .word text

namespace State

/-- No value follows any more; an option that needs one must have it. -/
def settle (state : State) : Except Halt State :=
  match state.pending with
  | some ⟨switch, false⟩ => .error (.usage (.missingValue switch.long))
  | _ => .ok { state with pending := none }

/-- Reads an option that may take values, one of which may be attached. -/
def await (state : State) (switch : Switch) (attached : Option String) : Except Halt State :=
  match attached with
  | some value => do return { options := ← state.options.give switch value }
  | none => .ok { state with pending := some ⟨switch, false⟩ }

/-- Reads an option by its long name. -/
def readLong (topic : Option Name) (switches : List Switch) (state : State) (name : String)
    (value : Option String) : Except Halt State := do
  let state ← state.settle
  match switches.find? fun s => s.long == name with
  | none => .error (.usage (.unexpected ("--" ++ name)))
  | some switch =>
    if switch.arity ≠ .none then state.await switch value
    else if value.isSome then .error (.usage (.unexpectedValue name))
    else return { options := ← state.options.set topic switch }

/-- The value that is attached to a letter; an equals sign may stand between them. -/
def attached (letters : List Char) : Option String :=
  match letters with
  | [] => none
  | '=' :: value => some (String.ofList value)
  | value => some (String.ofList value)

/-- Reads options by their letters. What follows the letter of an option that takes values is its
value. -/
def readLetters (topic : Option Name) (switches : List Switch) (state : State) :
    List Char → Except Halt State
  | [] => .ok state
  | c :: rest => do
    let state ← state.settle
    match switches.find? fun s => s.letter? == some c with
    | none => .error (.usage (.unexpected ("-" ++ c.toString)))
    | some switch =>
      if switch.arity ≠ .none then state.await switch (attached rest)
      else
        readLetters topic switches { state with options := ← state.options.set topic switch } rest

/-- Reads a word as a value, if an option waits for one. -/
def readWord (state : State) (text : String) : Except Halt State :=
  match state.pending with
  | none => .error (.usage (.unexpected text))
  | some ⟨switch, _⟩ => do
    let options ← state.options.give switch text
    return { options, pending := if switch.arity = .several then some ⟨switch, true⟩ else none }

end State

/-- Reads the arguments behind a command. -/
def readOptions (name : Name) (state : State) : List String → Except Halt Options
  | [] => do return (← state.settle).options
  | text :: rest =>
    match Argument.ofText text with
    | .escape =>
      match rest with
      | [] => do return (← state.settle).options
      | next :: _ => .error (.usage (.unexpected next))
    | .long long value => do
      readOptions name (← state.readLong (some name) name.switches long value) rest
    | .letters letters => do
      readOptions name (← state.readLetters (some name) name.switches letters) rest
    | .word text => do readOptions name (← state.readWord text) rest

/-- Reads the arguments behind the word that asks for help: perhaps a command. -/
def readHelp : List String → Halt
  | [] => .help none
  | [word] =>
    match Name.all.find? fun name => name.word == word with
    | some name => .help (some name)
    | none => if word = "help" then .help none else .usage (.unknownCommand word)
  | _ :: word :: _ => .usage (.unknownCommand word)

/-- Reads a command line. What is asked for in messages behind the command counts more than what is
asked for before it. -/
def read (state : State) : List String → Except Halt Invocation
  | [] => .error (.usage .noCommand)
  | text :: rest =>
    match Argument.ofText text with
    | .escape =>
      match rest with
      | [] => .error (.usage .noCommand)
      | next :: _ => .error (.usage (.unexpected next))
    | .long long value => do read (← state.readLong none Switch.general long value) rest
    | .letters letters => do read (← state.readLetters none Switch.general letters) rest
    | .word text =>
      match Name.all.find? fun name => name.word == text with
      | some name => do
        let options ← readOptions name {} rest
        let verbosity :=
          if options.verbosity = 0 then state.options.verbosity else options.verbosity
        return ⟨name, { options with verbosity }⟩
      | none => .error (if text = "help" then readHelp rest else .usage (.unknownCommand text))

end TypeSchema.Command
