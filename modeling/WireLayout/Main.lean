import WireLayout.Command

/-!
# Running the command

The outer layer of the command: it reads the file of the schema, prints what
the command puts out and writes its complaint to the error stream.
-/

namespace WireLayout.Command

/-- The content of a file, absent when it cannot be read. -/
def readContent (path : String) : IO (Option ByteArray) := do
  try
    return some (← IO.FS.readBinFile path)
  catch _ =>
    return none

end WireLayout.Command

open WireLayout.Command

/-- Runs the command. -/
def main (arguments : List String) : IO UInt32 := do
  let content ← match (Request.ofArguments arguments).path with
    | some path => readContent path
    | none => pure none
  let outcome := run (fun _ => content) arguments
  IO.print outcome.output
  if let some complaint := outcome.complaint then
    IO.eprintln ("Error: " ++ complaint)
  return outcome.status.toUInt32
