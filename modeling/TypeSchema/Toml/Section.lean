import TypeSchema.OrderedMap
import TypeSchema.Toml.Value

/-!
# Sections of a document

A document is read line by line, and its tables grow as lines add to them. How a table came about
decides what may still be added: a table that was only named on the way to another can be defined
later, one that dotted keys made can be added to by dotted keys, and a value is complete. No name is
given twice.
-/

namespace TypeSchema.Toml

/-- How a table came about. -/
inductive Origin where
  /-- It was on the way to a table with a header. -/
  | implied
  /-- It was on the way of a dotted key. -/
  | dotted
  /-- It has a header of its own. -/
  | defined
  deriving Repr, DecidableEq

/-- What stands under a name while a document is read. -/
inductive Entry where
  /-- A complete value. -/
  | value (value : Value)
  /-- A table. -/
  | table (origin : Origin) (entries : List (String × Entry))
  /-- Tables with a header each: the complete ones, and the entries of the last. -/
  | tables (complete : List Value) (last : List (String × Entry))

/-- The entries of a table while a document is read. -/
abbrev Entries := List (String × Entry)

/-- The names on the way to an entry, outermost first. -/
abbrev Path := List String

namespace Entry

mutual

/-- The value of an entry. -/
def complete : Entry → Value
  | .value v => v
  | .table _ entries => .table (completeAll entries)
  | .tables earlier last => .array (earlier ++ [.table (completeAll last)])

/-- The values of the entries of a table. -/
def completeAll : List (String × Entry) → List (String × Value)
  | [] => []
  | (name, entry) :: rest => (name, complete entry) :: completeAll rest

end

end Entry

namespace Entries

/-- Puts a value under a dotted key. -/
def add (value : Value) : Path → Entries → Option Entries
  | [], _ => none
  | [name], entries =>
    match entries.lookup name with
    | none => some (putEntry name (.value value) entries)
    | some _ => none
  | name :: path, entries =>
    match entries.lookup name with
    | none => do return putEntry name (.table .dotted (← add value path [])) entries
    | some (.table .dotted inner) => do
      return putEntry name (.table .dotted (← add value path inner)) entries
    | some _ => none

/-- Changes the table of a name, which is made if there is none; of several tables the last one. -/
def enter (name : String) (change : Entries → Option Entries) (entries : Entries) :
    Option Entries :=
  match entries.lookup name with
  | none => do return putEntry name (.table .implied (← change [])) entries
  | some (.table origin inner) => do return putEntry name (.table origin (← change inner)) entries
  | some (.tables complete last) => do
    return putEntry name (.tables complete (← change last)) entries
  | some (.value _) => none

/-- Changes the table at the end of a way. -/
def enterAll (change : Entries → Option Entries) : Path → Entries → Option Entries
  | [], entries => change entries
  | name :: path, entries => enter name (enterAll change path) entries

/-- Defines the table that a header names. -/
def define : Path → Entries → Option Entries
  | [], _ => none
  | [name], entries =>
    match entries.lookup name with
    | none => some (putEntry name (.table .defined []) entries)
    | some (.table .implied inner) => some (putEntry name (.table .defined inner) entries)
    | some _ => none
  | name :: path, entries => enter name (define path) entries

/-- Appends a table to those that a header of a list names. -/
def append : Path → Entries → Option Entries
  | [], _ => none
  | [name], entries =>
    match entries.lookup name with
    | none => some (putEntry name (.tables [] []) entries)
    | some (.tables complete last) =>
      some (putEntry name (.tables (complete ++ [.table (Entry.completeAll last)]) []) entries)
    | some _ => none
  | name :: path, entries => enter name (append path) entries

end Entries

end TypeSchema.Toml
