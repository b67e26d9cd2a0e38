/-
# Class names

A class has a package, which may be empty, and a simple name.  Written in full, the two are
joined by a dot; reading such a text cuts it at its last dot.  Class names are ordered by package
and then by simple name, each by its code points.
-/
import ClassGen.Model.Identifier
import ClassGen.Text.Blank
import ClassGen.Text.Split

namespace ClassGen

open Text

/-- The package and the simple name of a class.  The package is empty for a class of the default
package and for a name written without one. -/
@[ext]
structure ClassName where
  /-- The package, its segments separated by dots. -/
  package : String
  /-- The name within the package. -/
  simple : String
deriving DecidableEq, Repr, Inhabited

/-- A text that does not name what it should. -/
inductive NameError where
  /-- The trimmed text is no dotted list of identifiers. -/
  | invalidName (text : String)
  /-- The text is no type. -/
  | invalidType (text : String)
deriving DecidableEq, Repr

/-- The wording of the error. -/
def NameError.message : NameError → String
  | .invalidName text => "invalid class name: " ++ text
  | .invalidType text => "invalid type: " ++ text

/-- Is the text a dotted list of identifiers? -/
def isDottedName (s : String) : Bool :=
  (segments s).all isIdentifier

namespace ClassName

/-- The package of the classes that are known everywhere without an import. -/
def langPackage : String := "java.lang"

/-- The root of all classes. -/
def object : ClassName := ⟨langPackage, "Object"⟩

/-- The class of texts. -/
def string : ClassName := ⟨langPackage, "String"⟩

/-- The annotation of a method that overrides an inherited one. -/
def overrideMarker : ClassName := ⟨langPackage, "Override"⟩

/-- The name in full: package and simple name joined by a dot, or the simple name alone in the
default package. -/
def full (c : ClassName) : String :=
  if c.package = "" then c.simple else c.package ++ "." ++ c.simple

/-- The name whose full form has these segments: the last one is the simple name. -/
def ofSegments (parts : List String) : ClassName :=
  ⟨joinDots parts.dropLast, parts.getLastD ""⟩

/-- The class that the trimmed text names. -/
def parse (s : String) : Except NameError ClassName :=
  let name := trim s
  if isDottedName name then .ok (ofSegments (segments name)) else .error (.invalidName name)

/-- The order of class names: by package, then by simple name. -/
def lt (a b : ClassName) : Bool :=
  decide (a.package < b.package) || (a.package == b.package && decide (a.simple < b.simple))

end ClassName

end ClassGen
