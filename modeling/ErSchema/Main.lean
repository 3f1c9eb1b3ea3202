import ErSchema.CommandLine

/-!
# The program

Runs the command line over the files of the machine.
-/

namespace ErSchema.CommandLine

/-- A fault of the machine's files. -/
def pathFault : IO.Error → PathFault
  | .noFileOrDirectory .. => .notFound
  | .inappropriateType _ code _ => if code = 20 then .notDirectory else .isDirectory
  | e => .other (toString e)

/-- What an action on files comes to, with its fault if it fails. -/
def faults {α : Type} (action : IO α) : IO (Except PathFault α) := do
  try
    let a ← action
    pure (.ok a)
  catch e => pure (.error (pathFault e))

/-- Access to the files of the machine. -/
def machine : FileAccess IO where
  readBytes path := faults (IO.FS.readBinFile path)
  writeText path text := faults (IO.FS.writeFile path text)

end ErSchema.CommandLine

/-- Compiles the diagram that the arguments name. -/
def main (args : List String) : IO UInt32 := do
  let program := toString (← IO.appPath)
  let report ← ErSchema.CommandLine.runOn ErSchema.CommandLine.machine program args
  IO.print report.stdout
  IO.eprint report.stderr
  pure report.exitCode.toUInt32
