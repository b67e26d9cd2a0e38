/-
# Plugins

A plugin extends a run: it claims tokens of the command line and changes the code model.  It is
an arbitrary machine, so what is said of a pipeline holds whatever the plugins in it do.
-/
import ClassGen.Classpath
import ClassGen.Model.Class

namespace ClassGen

open Text

/-- A plugin's refusal of its configuration. -/
structure ConfigurationError where
  /-- What is wrong with the configuration. -/
  message : String
deriving DecidableEq, Repr

/-- A plugin, in the state that earlier tokens have brought it to. -/
structure Plugin where
  /-- The states of the plugin. -/
  State : Type
  /-- The state that it is in. -/
  state : State
  /-- Its option in a state, without the leading dash. -/
  optionName : State → String
  /-- What the usage text says about it in a state. -/
  usage : State → String
  /-- The types that it adds to the classpath when it is registered. -/
  types : List TypeDecl
  /-- How many of the tokens from the given position on it claims, zero for none, and the state
  after that, also when it refuses them. -/
  claim : State → Classpath → List String → Nat → Except ConfigurationError Nat × State
  /-- Whether it succeeds on a code model, what becomes of the model in either case, and the state
  after that. -/
  run : State → Classpath → CodeModel → Bool × CodeModel × State

namespace Plugin

/-- The claim of a plugin that knows no tokens but its option. -/
def claimNothing {State : Type} (s : State) (_ : Classpath) (_ : List String) (_ : Nat) :
    Except ConfigurationError Nat × State :=
  (.ok 0, s)

/-- Its option, without the leading dash. -/
def option (p : Plugin) : String := p.optionName p.state

/-- The token that turns the plugin on. -/
def flag (p : Plugin) : String := "-" ++ p.option

/-- What the usage text says about it. -/
def usageText (p : Plugin) : String := p.usage p.state

/-- What the plugin claims of the tokens from position `i` on, and the plugin after that. -/
def offer (p : Plugin) (cp : Classpath) (args : List String) (i : Nat) :
    Except ConfigurationError Nat × Plugin :=
  let (claimed, state) := p.claim p.state cp args i
  (claimed, { p with state := state })

/-- Whether the plugin succeeds on the model, what becomes of the model, and the plugin after
that. -/
def apply (p : Plugin) (cp : Classpath) (model : CodeModel) : Bool × CodeModel × Plugin :=
  let (succeeds, model, state) := p.run p.state cp model
  (succeeds, model, { p with state := state })

end Plugin

end ClassGen
