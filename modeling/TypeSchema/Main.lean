import TypeSchema.Command.Run

/-!
# The program

The command line on a machine: files are those of the file system, and events go to the error output.
-/

namespace TypeSchema.Command

/-- Does something, and says whether it could be done. -/
def succeeds (action : IO Unit) : IO Bool := do
  try
    action
    return true
  catch _ => return false

/-- The surroundings of a run on a machine. Events that are less important than `shown` are left
out. -/
def machine (shown : Option Level) : System IO where
  read path := do
    try return some (← IO.FS.readFile path) catch _ => return none
  exists? path := succeeds do discard (IO.FS.Handle.mk path .read)
  makeDirectories path := succeeds (IO.FS.createDirAll path)
  write path content := succeeds (IO.FS.writeFile path content)
  print line := IO.println line
  complain line := IO.eprintln line
  log event := do if isShown shown event.level then IO.eprintln event.line

end TypeSchema.Command

open TypeSchema.Command in
/-- Runs the command line of the program. -/
def main (arguments : List String) : IO UInt32 := do
  let shown := threshold (verbosity arguments) (← IO.getEnv "RUST_LOG")
  return (← execute (machine shown) arguments).toUInt32
