/-
# Failures of commands

A command that fails says what it could not do, and below that the causes, from the nearest to the
deepest.
-/
import ClassGen.Model.Build
import ClassGen.Pipeline
import ClassGen.Source.Error
import ClassGen.Document.Read
import ClassGen.Command.Workspace

namespace ClassGen

open Document

/-- Why a command fails. -/
inductive Failure where
  /-- The configuration file cannot be read. -/
  | configUnreadable (path : String) (cause : FileError)
  /-- The configuration file is no configuration. -/
  | configMalformed (path : String) (cause : ReadError)
  /-- The model file cannot be read. -/
  | modelUnreadable (path : String) (cause : FileError)
  /-- The model file is no model written as YAML. -/
  | malformedYaml (cause : ReadError)
  /-- The model file is no model written as JSON. -/
  | malformedJson (cause : ReadError)
  /-- The model file makes no code model. -/
  | modelRefused (cause : BuildError)
  /-- The tokens for plugins are refused. -/
  | argumentsRefused (cause : ArgumentError)
  /-- A plugin fails. -/
  | pipelineFailed (cause : PipelineError)
  /-- A class cannot be rendered. -/
  | renderRefused (cause : RenderError)
  /-- The directory of generated files cannot be made. -/
  | outputNotMade (path : String) (cause : FileError)
  /-- The directory of a package cannot be made. -/
  | directoryNotMade (path : String) (cause : FileError)
  /-- A file cannot be written. -/
  | notWritten (path : String) (cause : FileError)
  /-- The configuration file is there already. -/
  | configExists (path : String)
  /-- The configuration file cannot be written. -/
  | configNotWritten (cause : FileError)
deriving DecidableEq, Repr

namespace Failure

/-- What the command could not do. -/
def message : Failure → String
  | configUnreadable path cause => "failed to read config " ++ path ++ ": " ++ cause.message
  | configMalformed path cause => "failed to parse config " ++ path ++ ": " ++ cause.message
  | modelUnreadable path _ => "failed to read " ++ path
  | malformedYaml cause => "failed to parse YAML: " ++ cause.message
  | malformedJson cause => "failed to parse JSON: " ++ cause.message
  | modelRefused cause => cause.message
  | argumentsRefused _ => "invalid plugin arguments"
  | pipelineFailed cause => cause.message
  | renderRefused cause => cause.message
  | outputNotMade path _ => "failed to create output directory " ++ path
  | directoryNotMade path _ => "failed to create directory " ++ path
  | notWritten path _ => "failed to write " ++ path
  | configExists path => path ++ " already exists. Use --force to overwrite."
  | configNotWritten cause => cause.message

/-- The causes, from the nearest to the deepest. -/
def causes : Failure → List String
  | modelUnreadable _ cause => [cause.message]
  | malformedYaml cause => [cause.message]
  | malformedJson cause => [cause.message]
  | modelRefused (.invalidFieldType _ _ cause) => [cause.message]
  | argumentsRefused (.configuration cause) =>
    [ArgumentError.message (.configuration cause), cause.message]
  | argumentsRefused cause => [cause.message]
  | outputNotMade _ cause => [cause.message]
  | directoryNotMade _ cause => [cause.message]
  | notWritten _ cause => [cause.message]
  | _ => []

/-- The causes with their numbers, the first of which is `n`. -/
def numbered (n : Nat) : List String → String
  | [] => ""
  | cause :: causes => "    " ++ Nat.repr n ++ ": " ++ cause ++ "\n" ++ numbered (n + 1) causes

/-- The failure as it is printed. -/
def render (f : Failure) : String :=
  "Error: " ++ f.message ++ "\n" ++
    match f.causes with
    | [] => ""
    | [cause] => "\nCaused by:\n    " ++ cause ++ "\n"
    | causes => "\nCaused by:\n" ++ numbered 0 causes

end Failure

end ClassGen
