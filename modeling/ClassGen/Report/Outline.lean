/-
# Outlines

What is shown of a code model: texts, lists and records of texts.  An outline can be printed as
JSON and as YAML.
-/
import ClassGen.Model.Class

namespace ClassGen

/-- A text, a list or a record, to be shown. -/
inductive Outline where
  | text (s : String)
  | list (items : List Outline)
  | record (entries : List (String × Outline))
deriving Repr

namespace Outline

/-- The outline of a field. -/
def ofField (f : Field) : Outline :=
  record [("name", text f.name), ("type", text f.type.render)]

/-- The outline of a class: its fields and the heads of its methods. -/
def ofClass (c : ClassDef) : Outline :=
  record [
    ("fields", list (c.fields.map ofField)),
    ("methods", list (c.methods.map fun m => text m.renderHead)),
    ("name", text c.name.full)]

/-- The outline of a code model and of the types on the classpath. -/
def ofModel (types : List String) (m : CodeModel) : Outline :=
  record [
    ("classes", list (m.classes.map ofClass)),
    ("classpath", list (types.map text)),
    ("package", text m.package)]

end Outline

end ClassGen
