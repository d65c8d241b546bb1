import TypeSchema.Command.Arguments

/-!
# Usage

The texts that answer a wish for help or for the version.
-/

namespace TypeSchema.Command

/-- The name of the program. -/
def programName : String := "koja"

/-- The name of the program and its version. -/
def versionText : String := programName ++ " 0.3.0"

/-- What the program does. -/
def summary : String := "JSON Schema generator for Rust data models"

/-- What a command does. -/
def Name.summary : Name → String
  | generate => "Generate JSON Schema from Rust source files"
  | check => "Validate every JsonSchema type and its doc comments"

/-- What an option does. -/
def Switch.summary : Switch → String
  | input => "Rust source files to read"
  | output => "Output path for the schema document (default: stdout)"
  | type => "Only generate these types (repeatable)"
  | compact => "Write compact instead of pretty-printed JSON"
  | manifest => "Path to koja.toml (default: ./koja.toml when present)"
  | verbose => "Increase log verbosity (-v for debug, -vv for trace)"
  | help => "Print help"
  | version => "Print version"

/-- An option as it is written, with its value. -/
def Switch.form (switch : Switch) : String :=
  (match switch.letter? with | some c => "-" ++ c.toString ++ ", " | none => "    ") ++
    "--" ++ switch.long ++
    match switch with
    | input => " <INPUT>..."
    | output => " <OUTPUT>"
    | type => " <TYPES>"
    | manifest => " <MANIFEST>"
    | verbose => "..."
    | compact | help | version => ""

/-- Lines of two columns. -/
def columns (rows : List (String × String)) : List String :=
  let width := (rows.map fun row => row.1.length).foldl max 0
  rows.map fun (left, right) =>
    "  " ++ left ++ String.ofList (List.replicate (width - left.length) ' ') ++ "  " ++ right

/-- The lines on options. -/
def optionLines (switches : List Switch) : List String :=
  "Options:" :: columns (switches.map fun s => (s.form, s.summary))

/-- The help on the program or on one command. -/
def helpText (topic : Option Name) : String :=
  String.intercalate "\n" <|
    match topic with
    | none =>
      [summary, "", s!"Usage: {programName} [OPTIONS] <COMMAND>", "", "Commands:"] ++
        columns (Name.all.map (fun name => (name.word, name.summary)) ++
          [("help", "Print this message or the help of the given subcommand(s)")]) ++
        "" :: optionLines Switch.general
    | some name =>
      [name.summary, "", s!"Usage: {programName} {name.word} [OPTIONS]", ""] ++
        optionLines name.switches

end TypeSchema.Command
