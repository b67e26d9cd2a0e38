/-
# Model files

A model file names a package and lists classes, each with fields.  Names and types are kept as
they were written; `ClassGen.Model.Build` makes a code model from them.
-/

namespace ClassGen

/-- A field as a model file describes it. -/
structure FieldSpec where
  /-- The name as written. -/
  name : String
  /-- The type as written. -/
  type : String
  /-- A description, if there is one. -/
  description : Option String
deriving DecidableEq, Repr

/-- A class as a model file describes it. -/
structure ClassSpec where
  /-- The name as written. -/
  name : String
  /-- A description, if there is one. -/
  description : Option String
  /-- The fields, in order. -/
  fields : List FieldSpec
deriving DecidableEq, Repr

/-- A model file. -/
structure ModelFile where
  /-- The package as written; empty if the file names none. -/
  package : String
  /-- The classes, in order. -/
  classes : List ClassSpec
deriving DecidableEq, Repr

end ClassGen
