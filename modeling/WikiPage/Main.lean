import WikiPage.Program.Session
/-!
# The program

Renders a page, or prints its tree, as the command line asks.
-/

namespace WikiPage

/-- The kind of what stands at a path. -/
def fileType? (path : String) : IO (Option IO.FS.FileType) := do
  try return some (← (← IO.FS.realPath ⟨path⟩).metadata).type catch _ => return none

/-- All that is left in a stream. -/
partial def readRest (stream : IO.FS.Stream) (read : ByteArray) : IO ByteArray := do
  let more ← stream.read 65536
  if more.isEmpty then return read else readRest stream (read ++ more)

/-- The machine that the program runs on. -/
def machine : Surroundings IO where
  exists? path := return (← fileType? path).isSome
  isFile path := return (← fileType? path) matches some .file
  readText path := do
    try return String.fromUTF8? (← IO.FS.readBinFile ⟨path⟩) catch _ => return none
  lookup name := IO.getEnv name
  folder := do
    try return some (← IO.currentDir).toString catch _ => return none
  input := do
    try return String.fromUTF8? (← readRest (← IO.getStdin) .empty) catch _ => return none

end WikiPage

/-- Runs the program. -/
def main (arguments : List String) : IO UInt32 := do
  let outcome ← WikiPage.Session.run WikiPage.machine arguments
  (← IO.getStderr).putStr outcome.remarks
  (← IO.getStdout).putStr outcome.output
  return outcome.exitCode.toUInt32
