/-
# The program

The command line in the directory where the program is started, and the texts on it.
-/
import ClassGen.Command.Run

namespace ClassGen

/-- The reason of an error of the file system.  Some calls give the number of the error with its
sign turned. -/
def FileError.ofSystem : IO.Error → FileError
  | .noFileOrDirectory _ _ _ => .notFound
  | .alreadyExists _ _ _ => .alreadyExists
  | .inappropriateType file number details =>
    if number = 20 ∨ -number = 20 then .notDirectory
    else if number = 21 ∨ -number = 21 then .isDirectory
    else .other (toString (IO.Error.inappropriateType file number details))
  | e => .other (toString e)

/-- What a step at a path gives that may fail for a reason of the file system. -/
def FileError.catching {α : Type} (path : String) (step : IO α) : IO (Except FileError α) := do
  if Path.hasNul path then return .error .nulInPath
  try
    return .ok (← step)
  catch e =>
    return .error (.ofSystem e)

/-- Read the text of a file. -/
def readTextFile (path : String) : IO (Except FileError String) := do
  match ← FileError.catching path (IO.FS.readBinFile path) with
  | .error e => return .error e
  | .ok content =>
    match String.fromUTF8? content with
    | some text => return .ok text
    | none => return .error .notText

/-- The names of the commands with a line on each. -/
def helpText : String :=
  "Usage: xbind <COMMAND>\n\n" ++
  "generate     write the source files of a model\n" ++
  "validate     check a model\n" ++
  "inspect      show a model after the plugins have run\n" ++
  "usage        show the usage of the plugins\n" ++
  "init         write a configuration file\n" ++
  "completions  show the completions for a shell\n"

/-- The words that a command line may start with, one on each line.  Each shell takes these. -/
def completionText : String :=
  String.join (Request.commands.map fun c => c.1 ++ "\n")

instance : Workspace IO where
  pathExists path := do
    return (← FileError.catching path (IO.FS.realPath path)).isOk
  isDirectory path := do
    match ← FileError.catching path (IO.FS.realPath path) with
    | .ok place => place.isDir
    | .error _ => return false
  readText := readTextFile
  makeDir path := FileError.catching path (IO.FS.createDir path)
  writeText path text := FileError.catching path (IO.FS.writeFile path text)
  print := IO.print
  report := IO.eprint
  showHelp := IO.print helpText
  showCompletions _ := IO.print completionText

end ClassGen

/-- Do what the arguments ask for and tell how it went. -/
def main (args : List String) : IO UInt32 := do
  let status ← ClassGen.runProgram (m := IO) args
  return status.code.toUInt32
