/-
# Running commands

What each command does in a workspace.  A model is loaded, built, changed by the plugins and
rendered as a whole before the first file is written.
-/
import ClassGen.Config
import ClassGen.Derived.Plugin
import ClassGen.Document.Json.Parser
import ClassGen.Source.File
import ClassGen.Report.Json
import ClassGen.Report.Yaml
import ClassGen.Command.Arguments
import ClassGen.Command.Failure
import ClassGen.Command.Path

namespace ClassGen

open Document

/-- The program's name and version. -/
def versionText : String := "xbind 0.3.0\n"

/-- What the plugins made of a model. -/
structure Processed where
  /-- The options of the plugins that are turned on. -/
  active : List String
  /-- The names of the types on the classpath. -/
  types : List String
  /-- Whether the plugins succeed. -/
  outcome : Except PipelineError Unit
  /-- The model after them. -/
  model : CodeModel

namespace Pipeline

/-- The pipeline of a configuration: its types and the plugin for derived methods. -/
def ofConfig (config : Config) : Pipeline :=
  (ofClasspath config.classpath).register (Style.plugin .builtin .initial)

/-- The pipeline of a configuration after its tokens and those of the command line. -/
def prepare (config : Config) (args : List String) : Except ArgumentError Unit × Pipeline :=
  (ofConfig config).parseArguments (config.pluginArgs ++ args)

end Pipeline

/-- Run the plugins that the tokens of the configuration and of the command line turn on. -/
def process (config : Config) (args : List String) (model : CodeModel) :
    Except Failure Processed :=
  match Pipeline.prepare config args with
  | (.error e, _) => .error (.argumentsRefused e)
  | (.ok (), pipeline) =>
    let (outcome, model) := pipeline.run model
    .ok ⟨pipeline.activeNames, pipeline.classpath.decls.map (·.name), outcome, model⟩

/-- The model file that the text at a path describes.  Only a file with the extension `json` is
taken for JSON. -/
def ModelFile.parse (path text : String) : Except Failure ModelFile :=
  if Path.extension? path = some "json" then
    (Json.read ModelFile.read text).mapError .malformedJson
  else (Yaml.read ModelFile.read text).mapError .malformedYaml

/-- The steps of a command, which may fail. -/
abbrev Action (m : Type → Type) (α : Type) := ExceptT Failure m α

namespace Action

variable {m : Type → Type} [Monad m] [Workspace m]

/-- What a step gives that may fail for a reason of the file system. -/
def ofFile {α : Type} (failure : FileError → Failure) (step : m (Except FileError α)) :
    Action m α := do
  match ← (step : m (Except FileError α)) with
  | .ok a => pure a
  | .error e => throw (failure e)

/-- Print a text about what the command does. -/
def report (text : String) : Action m Unit := ExceptT.lift (Workspace.report text)

/-- Print a text as the result of the command. -/
def print (text : String) : Action m Unit := ExceptT.lift (Workspace.print text)

/-- The configuration of the project, or the initial one if it has none. -/
def loadConfig : Action m Config := do
  let path := Config.fileName
  if ← ExceptT.lift (Workspace.pathExists path) then
    let text ← ofFile (.configUnreadable path) (Workspace.readText path)
    match Config.parse text with
    | .ok config => pure config
    | .error e => throw (.configMalformed path e)
  else pure .initial

/-- The code model that the file at a path describes. -/
def loadModel (path : String) : Action m CodeModel := do
  let text ← ofFile (.modelUnreadable path) (Workspace.readText path)
  match ModelFile.parse path text with
  | .error e => throw e
  | .ok file =>
    match file.build with
    | .error e => throw (.modelRefused e)
    | .ok model => pure model

/-- Write files below a directory. -/
def writeFiles (base : String) : List SourceFile → Action m Unit
  | [] => pure ()
  | file :: files => do
    let path := Path.join base file.path
    let parent := Path.parent path
    ofFile (.directoryNotMade parent) (Workspace.makeDirs parent)
    ofFile (.notWritten path) (Workspace.writeText path file.content)
    report ("  wrote " ++ path ++ "\n")
    writeFiles base files

/-- Report which plugins are turned on, if any are. -/
def reportPlugins (names : List String) : Action m Unit :=
  let text := ", ".intercalate names
  if text = "" then pure () else report ("Plugins: " ++ text ++ "\n")

/-- The files of a model that the plugins have changed. -/
def renderFiles (comments : Bool) (p : Processed) : Except Failure (List SourceFile) :=
  match p.outcome with
  | .error e => .error (.pipelineFailed e)
  | .ok () =>
    match p.model.sourceFiles comments with
    | .error e => .error (.renderRefused e)
    | .ok files => .ok files

/-- Write the source files of a model. -/
def generate (input output : Option String) (noComments : Bool) (pluginArgs : List String) :
    Action m Unit := do
  let config ← loadConfig
  let base := output.getD config.output
  let model ← loadModel (input.getD config.input)
  let processed ← process config pluginArgs model
  reportPlugins processed.active
  let files ← renderFiles (config.comments && !noComments) processed
  ofFile (.outputNotMade base) (Workspace.makeDirs base)
  writeFiles base files
  report ("Generated " ++ Nat.repr files.length ++ " files in " ++ base ++ "\n")

/-- Check a model. -/
def validate (input : String) : Action m Unit := do
  let model ← loadModel input
  report (if model.package = "" then "Valid model (default package)\n"
    else "Valid model: " ++ model.package ++ "\n")
  report ("  Classes: " ++ Nat.repr model.classes.length ++ "\n")
  report ("  Fields: " ++ Nat.repr model.fieldCount ++ "\n")
  report "Validation successful.\n"

/-- Show a model after the plugins have run. -/
def inspect (input : String) (format : ReportFormat) (pluginArgs : List String) :
    Action m Unit := do
  let config ← loadConfig
  let model ← loadModel input
  let processed ← process config pluginArgs model
  match processed.outcome with
  | .error e => throw (.pipelineFailed e)
  | .ok () =>
    let outline := Outline.ofModel processed.types processed.model
    print (match format with
      | .yaml => outline.toYaml
      | .json => outline.toJson)

/-- Write a configuration file to start from. -/
def init (force : Bool) : Action m Unit := do
  let path := Config.fileName
  let found ← ExceptT.lift (Workspace.pathExists path)
  if found && !force then throw (.configExists path)
  ofFile .configNotWritten (Workspace.writeText path Config.template)
  report ("Created " ++ path ++ "\n")

end Action

namespace Command

variable {m : Type → Type} [Monad m] [Workspace m]

/-- Do what a command asks for. -/
def run : Command → Action m Unit
  | generate input output noComments pluginArgs =>
    Action.generate input output noComments pluginArgs
  | validate input => Action.validate input
  | inspect input format pluginArgs => Action.inspect input format pluginArgs
  | usage => Action.print (Pipeline.ofConfig .initial).usage
  | init force => Action.init force
  | completions shell => ExceptT.lift (Workspace.showCompletions shell)

end Command

/-- How the program ends. -/
inductive ExitStatus where
  /-- The command has done what it was asked for. -/
  | success
  /-- The command has failed. -/
  | failure
  /-- The command line was refused. -/
  | refused
deriving DecidableEq, Repr

/-- The number of the status. -/
def ExitStatus.code : ExitStatus → Nat
  | success => 0
  | failure => 1
  | refused => 2

/-- Do what the arguments of the program ask for. -/
def runProgram {m : Type → Type} [Monad m] [Workspace m] (args : List String) :
    m ExitStatus := do
  match Request.parse args with
  | .error e =>
    Workspace.report ("error: " ++ e.message ++ "\n")
    pure .refused
  | .ok .version =>
    Workspace.print versionText
    pure .success
  | .ok .help =>
    Workspace.showHelp
    pure .success
  | .ok (.command c) =>
    match ← ExceptT.run (c.run : Action m Unit) with
    | .ok () => pure .success
    | .error e =>
      Workspace.report e.render
      pure .failure

end ClassGen
