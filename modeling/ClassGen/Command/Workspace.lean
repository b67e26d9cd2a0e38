/-
# Where a command runs

A command sees files and directories and two streams to print on.  What it does is written once,
for any place that offers these; a directory that is a value and the file system are two such
places.  The texts that tell how the command line is used are up to the place, too.
-/
import ClassGen.Command.Arguments
import ClassGen.Command.Path

namespace ClassGen

/-- Why a file or directory cannot be read, written or made. -/
inductive FileError where
  /-- There is no such file or directory. -/
  | notFound
  /-- There is one already. -/
  | alreadyExists
  /-- What should be a directory is none. -/
  | notDirectory
  /-- What should be a file is a directory. -/
  | isDirectory
  /-- The file holds no text. -/
  | notText
  /-- The path has a character in it that no path may have. -/
  | nulInPath
  /-- Another reason, in the words of the system. -/
  | other (reason : String)
deriving DecidableEq, Repr

/-- The wording of the error. -/
def FileError.message : FileError → String
  | .notFound => "No such file or directory (os error 2)"
  | .alreadyExists => "File exists (os error 17)"
  | .notDirectory => "Not a directory (os error 20)"
  | .isDirectory => "Is a directory (os error 21)"
  | .notText => "stream did not contain valid UTF-8"
  | .nulInPath => "file name contained an unexpected NUL byte"
  | .other reason => reason

/-- A place where a command can run. -/
class Workspace (m : Type → Type) where
  /-- Is there a file or directory at the path? -/
  pathExists : String → m Bool
  /-- Is there a directory at the path? -/
  isDirectory : String → m Bool
  /-- The text of the file at the path. -/
  readText : String → m (Except FileError String)
  /-- Make the directory at the path, in one that is there. -/
  makeDir : String → m (Except FileError Unit)
  /-- Put a text into the file at the path. -/
  writeText : String → String → m (Except FileError Unit)
  /-- Print a text as the result of the command. -/
  print : String → m Unit
  /-- Print a text about what the command does. -/
  report : String → m Unit
  /-- Show how the command line is used. -/
  showHelp : m Unit
  /-- Show the completions of the command line for a shell. -/
  showCompletions : Shell → m Unit

namespace Workspace

variable {m : Type → Type} [Monad m] [Workspace m]

/-- Make the directory at the path.  That is no error if there is one already. -/
def makeDirOrKeep (path : String) : m (Except FileError Unit) := do
  match ← makeDir path with
  | .ok () => return .ok ()
  | .error e => return if ← isDirectory path then .ok () else .error e

/-- Make the first directory in a list of paths, each of which is followed by the one it lies in.
The one it lies in is made only if the directory has no place yet. -/
def makeDirsAlong : List String → m (Except FileError Unit)
  | [] => pure (.ok ())
  | path :: around => do
    match ← makeDir path with
    | .ok () => return .ok ()
    | .error .notFound =>
      match ← makeDirsAlong around with
      | .ok () => makeDirOrKeep path
      | .error e => return .error e
    | .error e => return if ← isDirectory path then .ok () else .error e

/-- Make the directory at a path and those that lead to it, unless they are there. -/
def makeDirs (path : String) : m (Except FileError Unit) :=
  makeDirsAlong (Path.ancestors path)

end Workspace

end ClassGen
