/-
# What model files and declarations look like

The records of a model file and of a type declaration, with the names of their fields, which of
these may be missing, and what a missing one stands for.
-/
import ClassGen.Document.Read
import ClassGen.ModelFile
import ClassGen.Classpath

namespace ClassGen

open Document

variable {ν : Type} [Format ν]

/-- The field that a value describes. -/
def FieldSpec.read (v : ν) : Read FieldSpec := do
  let values ← Format.record ["name", "type", "description"] v
  let name ← required Format.text (field values 0)
  let type ← required Format.text (field values 1)
  let description ← withDefault none optionalText (field values 2)
  pure ⟨name, type, description⟩

/-- The class that a value describes. -/
def ClassSpec.read (v : ν) : Read ClassSpec := do
  let values ← Format.record ["name", "description", "fields"] v
  let name ← required Format.text (field values 0)
  let description ← withDefault none optionalText (field values 1)
  let fields ← withDefault [] (listOf FieldSpec.read) (field values 2)
  pure ⟨name, description, fields⟩

/-- The model file that a value describes. -/
def ModelFile.read (v : ν) : Read ModelFile := do
  let values ← Format.record ["package", "classes"] v
  let package ← withDefault "" Format.text (field values 0)
  let classes ← withDefault [] (listOf ClassSpec.read) (field values 1)
  pure ⟨package, classes⟩

/-- The type that a value declares. -/
def TypeDecl.read (v : ν) : Read TypeDecl := do
  let values ← Format.record ["name", "extends", "no_arg_constructor"] v
  let name ← required Format.text (field values 0)
  let parent ← withDefault none optionalText (field values 1)
  let noArgConstructor ← withDefault true Format.flag (field values 2)
  pure ⟨name, parent, noArgConstructor⟩

end ClassGen
