import Narrative.CommandLine

/-!
# The program

Reads the files that the arguments name, and talks to the player line by line.
-/

namespace Narrative.Main

/-- The reason why a file cannot be read. -/
def reasonOf : IO.Error → String
  | .noFileOrDirectory .. => DiskError.missing.message
  | .invalidArgument _ 36 _ => DiskError.tooLong.message
  | .inappropriateType _ 21 _ => DiskError.isFolder.message
  | .inappropriateType .. => DiskError.notFolder.message
  | .permissionDenied .. => "Permission denied (os error 13)"
  | error => toString error

/-- The contents of a file of the machine. -/
def readFile (path : String) : IO (Except String ByteArray) := do
  try
    let bytes ← IO.FS.readBinFile path
    pure (.ok bytes)
  catch error => pure (.error (reasonOf error))

/-- The files under some paths. -/
def readFiles (paths : List String) : IO CommandLine.Files := do
  let contents ← paths.mapM fun path => do
    let content ← readFile path
    pure (path, content)
  pure fun path => (contents.lookup path).getD (.error DiskError.missing.message)

/-- Show what a player sees and take in lines, until the player leaves. -/
partial def converse (input output : IO.FS.Stream) (player : Player) : IO Unit := do
  let (screen, player) := player.takeScreen
  output.putStr screen
  output.flush
  if player.isOver then return
  let line ← input.getLine
  converse input output (player.enter line).value

end Narrative.Main

open Narrative

/-- Run the program. -/
def main (arguments : List String) : IO UInt32 := do
  let paths :=
    match CommandLine.Command.ofArguments arguments with
    | .ok command => command.paths
    | .error _ => []
  let files ← Main.readFiles paths
  match (CommandLine.start files arguments).value with
  | .ok player => do
    Main.converse (← IO.getStdin) (← IO.getStdout) player
    pure 0
  | .error outcome => do
    (← IO.getStdout).putStr outcome.output
    (← IO.getStderr).putStr outcome.complaint
    pure (UInt32.ofNat outcome.code)
