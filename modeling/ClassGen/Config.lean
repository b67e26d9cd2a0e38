/-
# The project's configuration

A configuration file says where the model is, where generated files go, whether they carry
comments, what tokens plugins get, and what types are on the classpath.  All of it may be left
out.
-/
import ClassGen.Document.Schema
import ClassGen.Document.Yaml.Value

namespace ClassGen

open Document

/-- What a configuration file says. -/
structure Config where
  /-- The path of the model file. -/
  input : String
  /-- The directory of generated files. -/
  output : String
  /-- Do descriptions become comments? -/
  comments : Bool
  /-- The tokens for plugins, before those of the command line. -/
  pluginArgs : List String
  /-- The types on the classpath. -/
  types : List TypeDecl
deriving DecidableEq, Repr

namespace Config

/-- The name of the configuration file. -/
def fileName : String := ".xbind.yaml"

/-- What holds where a configuration file says nothing. -/
def initial : Config := ⟨"model.yaml", "generated", true, [], []⟩

/-- The configuration that a value describes. -/
def read {ν : Type} [Format ν] (v : ν) : Read Config := do
  let values ← Format.record ["input", "output", "javadoc", "plugin_args", "classpath"] v
  let input ← withDefault initial.input Format.text (field values 0)
  let output ← withDefault initial.output Format.text (field values 1)
  let comments ← withDefault initial.comments Format.flag (field values 2)
  let pluginArgs ← withDefault initial.pluginArgs (listOf Format.text) (field values 3)
  let types ← withDefault initial.types (listOf TypeDecl.read) (field values 4)
  pure ⟨input, output, comments, pluginArgs, types⟩

/-- The configuration that the text of a configuration file describes. -/
def parse (text : String) : Except ReadError Config :=
  Yaml.read Config.read text

/-- The classpath with the types of the configuration. -/
def classpath (c : Config) : Classpath := .ofDecls c.types

/-- The text of a configuration file to start from. -/
def template : String :=
  "# xbind configuration\n" ++
  "input: model.yaml\n" ++
  "output: generated\n" ++
  "javadoc: true\n" ++
  "\n" ++
  "plugin_args:\n" ++
  "  - -Xcommons-lang\n" ++
  "  # - -Xcommons-lang:ToStringStyle=SHORT_PREFIX_STYLE\n" ++
  "  # - -Xcommons-lang:ToStringStyle=com.example.MyStyle\n" ++
  "\n" ++
  "classpath: []\n" ++
  "  # - name: com.example.MyStyle\n" ++
  "  #   extends: org.apache.commons.lang3.builder.ToStringStyle\n"

end Config

end ClassGen
