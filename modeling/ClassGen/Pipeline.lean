/-
# Pipelines

A pipeline offers the tokens of the command line to its plugins and runs those that a token has
turned on.

* A token goes to the plugins in the order of their registration.  It is claimed by the first one
  that answers with a positive count, or whose flag it is.
* A plugin is turned on by its first claim and stays on; the plugins run in the order in which
  they were turned on, until one fails.
-/
import ClassGen.Plugin

namespace ClassGen

open Text

/-- Why a list of tokens is refused. -/
inductive ArgumentError where
  /-- No plugin claims the token. -/
  | unrecognized (token : String)
  /-- A plugin refuses its configuration. -/
  | configuration (cause : ConfigurationError)
deriving DecidableEq, Repr

/-- The wording of the error. -/
def ArgumentError.message : ArgumentError → String
  | .unrecognized token => "unrecognized parameter " ++ token
  | .configuration cause => "bad command line: " ++ cause.message

/-- Why a run is given up. -/
inductive PipelineError where
  /-- The plugin with that option did not succeed. -/
  | pluginFailed (optionName : String)
deriving DecidableEq, Repr

/-- The wording of the error. -/
def PipelineError.message : PipelineError → String
  | .pluginFailed optionName => "plugin -" ++ optionName ++ " reported failure"

/-- What becomes of a token that is offered to plugins. -/
inductive Claim where
  /-- No plugin claims it. -/
  | unclaimed
  /-- The plugin at that position claims this many tokens. -/
  | claimed (plugin count : Nat)
  /-- A plugin refuses its configuration. -/
  | refused (cause : ConfigurationError)
deriving DecidableEq, Repr

/-- Offer the tokens from position `i` on, the first of which is `token`, to the plugins from
left to right; the first plugin has the number `k`.  Plugins after the one that decides are left
alone. -/
def Claim.among (cp : Classpath) (args : List String) (i : Nat) (token : String) (k : Nat) :
    List Plugin → Claim × List Plugin
  | [] => (.unclaimed, [])
  | plugin :: rest =>
    match plugin.offer cp args i with
    | (.error cause, plugin) => (.refused cause, plugin :: rest)
    | (.ok (n + 1), plugin) => (.claimed k (n + 1), plugin :: rest)
    | (.ok 0, plugin) =>
      if trim token = plugin.flag then (.claimed k 1, plugin :: rest)
      else
        let (claim, rest) := among cp args i token (k + 1) rest
        (claim, plugin :: rest)

/-- The plugins of a run, with those that are turned on. -/
structure Pipeline where
  /-- The types known to the plugins. -/
  classpath : Classpath
  /-- The plugins, in the order of their registration. -/
  plugins : List Plugin
  /-- The positions of the plugins that are turned on, in the order in which they were. -/
  active : List Nat

namespace Pipeline

/-- The pipeline without plugins. -/
def ofClasspath (cp : Classpath) : Pipeline := ⟨cp, [], []⟩

/-- The pipeline with one more plugin, and its types on the classpath. -/
def register (p : Pipeline) (plugin : Plugin) : Pipeline :=
  { p with
    classpath := p.classpath.registerAll plugin.types
    plugins := p.plugins ++ [plugin] }

/-- The pipeline with the plugin at position `k` turned on. -/
def activate (p : Pipeline) (k : Nat) : Pipeline :=
  if p.active.contains k then p else { p with active := p.active ++ [k] }

/-- The plugins that are turned on, in the order in which they were. -/
def activePlugins (p : Pipeline) : List Plugin :=
  p.active.filterMap fun k => p.plugins[k]?

/-- The options of the plugins that are turned on. -/
def activeNames (p : Pipeline) : List String :=
  p.activePlugins.map (·.option)

/-- The usage texts of all plugins, one after the other. -/
def usage (p : Pipeline) : String :=
  String.join (p.plugins.map (·.usageText))

/-- How many tokens from position `i` on are claimed, zero for none or when there is no token,
and the pipeline after that. -/
def parseArgument (p : Pipeline) (args : List String) (i : Nat) :
    Except ArgumentError Nat × Pipeline :=
  match args[i]? with
  | none => (.ok 0, p)
  | some token =>
    match Claim.among p.classpath args i token 0 p.plugins with
    | (.unclaimed, plugins) => (.ok 0, { p with plugins := plugins })
    | (.claimed k n, plugins) => (.ok n, { p with plugins := plugins }.activate k)
    | (.refused cause, plugins) => (.error (.configuration cause), { p with plugins := plugins })

/-- Have all tokens from position `i` on claimed, and the pipeline after the last claim or the
first offence. -/
def parseFrom (p : Pipeline) (args : List String) (i : Nat) :
    Except ArgumentError Unit × Pipeline :=
  if h : i < args.length then
    match p.parseArgument args i with
    | (.error e, p) => (.error e, p)
    | (.ok 0, p) => (.error (.unrecognized args[i]), p)
    | (.ok (n + 1), p) => p.parseFrom args (i + (n + 1))
  else (.ok (), p)
termination_by args.length - i

/-- Have all tokens claimed. -/
def parseArguments (p : Pipeline) (args : List String) : Except ArgumentError Unit × Pipeline :=
  p.parseFrom args 0

/-- Run plugins from left to right until one fails, and what becomes of the model. -/
def runPlugins (cp : Classpath) (model : CodeModel) :
    List Plugin → Except PipelineError Unit × CodeModel
  | [] => (.ok (), model)
  | plugin :: rest =>
    match plugin.apply cp model with
    | (true, model, _) => runPlugins cp model rest
    | (false, model, plugin) => (.error (.pluginFailed plugin.option), model)

/-- Run the plugins that are turned on, and what becomes of the model. -/
def run (p : Pipeline) (model : CodeModel) : Except PipelineError Unit × CodeModel :=
  runPlugins p.classpath model p.activePlugins

end Pipeline

end ClassGen
