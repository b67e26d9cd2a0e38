/-
# From model files to code models

Names are normalised, written types are read, and a reference to a class of the file by its
written name follows that class to its new name.  The file is refused at its first offence:
first the package, then class by class, each field's repeated name before its type, and a class's
fields before its own repeated name.
-/
import ClassGen.ModelFile
import ClassGen.Naming.Normalize
import ClassGen.Model.Class
import ClassGen.Model.TypeRef.Parser

namespace ClassGen

open Text

/-- Why a model file makes no code model. -/
inductive BuildError where
  /-- The package is no dotted list of identifiers. -/
  | invalidPackage (package : String)
  /-- The type of a field cannot be read, or is `void`. -/
  | invalidFieldType (cls field : String) (cause : NameError)
  /-- Two classes get one name. -/
  | duplicateClass (cls : String)
  /-- Two fields of a class get one name. -/
  | duplicateField (cls field : String)
deriving DecidableEq, Repr

/-- The wording of the error. -/
def BuildError.message : BuildError → String
  | .invalidPackage package => "invalid package name: " ++ package
  | .invalidFieldType cls field cause => "field " ++ cls ++ "." ++ field ++ ": " ++ cause.message
  | .duplicateClass cls => "duplicate class: " ++ cls
  | .duplicateField cls field => "duplicate field " ++ field ++ " in class " ++ cls

namespace ModelFile

/-- Does the file have a class of that written name? -/
def declares (file : ModelFile) (name : String) : Bool :=
  file.classes.any fun spec => spec.name == name

/-- Where a class name of a written type leads: a name without package that the file declares
becomes the name of the class made from it; any other stays. -/
def resolve (file : ModelFile) (name : ClassName) : ClassName :=
  if name.package = "" ∧ file.declares name.simple then ⟨"", className name.simple⟩ else name

end ModelFile

namespace FieldSpec

/-- The type that the field is written with, where it can be the type of a field. -/
def readType (spec : FieldSpec) : Except NameError TypeRef :=
  match TypeRef.parse spec.type with
  | .error e => .error e
  | .ok t => if t.isVoid then .error (.invalidType spec.type) else .ok t

/-- The field of a class named `cls`, when fields named `seen` stand before it. -/
def build (file : ModelFile) (cls : String) (seen : List String) (spec : FieldSpec) :
    Except BuildError Field :=
  let name := fieldName spec.name
  if seen.contains name then .error (.duplicateField cls name)
  else
    match spec.readType with
    | .error e => .error (.invalidFieldType cls name e)
    | .ok t => .ok ⟨name, t.mapNames file.resolve, spec.description⟩

/-- The fields of a class named `cls`, when fields named `seen` stand before them. -/
def buildAll (file : ModelFile) (cls : String) (seen : List String) :
    List FieldSpec → Except BuildError (List Field)
  | [] => .ok []
  | spec :: specs =>
    match build file cls seen spec with
    | .error e => .error e
    | .ok field =>
      match buildAll file cls (field.name :: seen) specs with
      | .error e => .error e
      | .ok fields => .ok (field :: fields)

end FieldSpec

namespace ClassSpec

/-- The class of the package that the description makes. -/
def build (file : ModelFile) (package : String) (spec : ClassSpec) : Except BuildError ClassDef :=
  let name := className spec.name
  match FieldSpec.buildAll file name [] spec.fields with
  | .error e => .error e
  | .ok fields => .ok ⟨⟨package, name⟩, spec.description, fields, []⟩

/-- The classes of the package, when classes with the simple names `seen` stand before them. -/
def buildAll (file : ModelFile) (package : String) (seen : List String) :
    List ClassSpec → Except BuildError (List ClassDef)
  | [] => .ok []
  | spec :: specs =>
    match build file package spec with
    | .error e => .error e
    | .ok cls =>
      if seen.contains cls.name.simple then .error (.duplicateClass cls.name.simple)
      else
        match buildAll file package (cls.name.simple :: seen) specs with
        | .error e => .error e
        | .ok classes => .ok (cls :: classes)

end ClassSpec

namespace ModelFile

/-- Can the package hold classes?  The empty one can, and any dotted list of identifiers. -/
def isPackage (package : String) : Bool :=
  package == "" || isDottedName package

/-- The code model that the file describes. -/
def build (file : ModelFile) : Except BuildError CodeModel :=
  let package := trim file.package
  if isPackage package then
    match ClassSpec.buildAll file package [] file.classes with
    | .error e => .error e
    | .ok classes => .ok ⟨package, classes⟩
  else .error (.invalidPackage package)

end ModelFile

end ClassGen
