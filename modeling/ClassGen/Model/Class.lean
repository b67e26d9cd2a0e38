/-
# Classes and code models

A class has fields and methods, in order; a code model is a list of classes with the package
they were made for.  Nothing here keeps names apart: two methods may have one signature until a
class is rendered.
-/
import ClassGen.Model.TypeRef
import ClassGen.Model.Expr

namespace ClassGen

/-- Who may use a method. -/
inductive Visibility where
  | «public»
  | «protected»
  | packagePrivate
  | «private»
deriving DecidableEq, Repr

namespace Visibility

instance : Inhabited Visibility := ⟨.public⟩

/-- The modifier that stands for the visibility; a method of its package has none. -/
def keyword : Visibility → String
  | .public => "public"
  | .protected => "protected"
  | .packagePrivate => ""
  | .private => "private"

end Visibility

/-- A parameter of a method. -/
structure Param where
  /-- The type of the parameter. -/
  type : TypeRef
  /-- Its name. -/
  name : String
deriving DecidableEq, Repr

/-- What tells the methods of a class apart: the name and the types of the parameters. -/
structure Signature where
  /-- The name of the method. -/
  name : String
  /-- The types of its parameters, in order. -/
  params : List TypeRef
deriving DecidableEq, Repr

/-- The signature as a text, with simple class names. -/
def Signature.render (s : Signature) : String :=
  s.name ++ "(" ++ ", ".intercalate (s.params.map TypeRef.render) ++ ")"

/-- A method of a class. -/
structure Method where
  /-- Who may call it. -/
  visibility : Visibility
  /-- The type of its result. -/
  returnType : TypeRef
  /-- Its name. -/
  name : String
  /-- Its parameters, in order. -/
  params : List Param
  /-- Its annotations, in order. -/
  annotations : List ClassName
  /-- Its statements, in order. -/
  body : List Statement
deriving DecidableEq, Repr

namespace Method

/-- The signature of the method. -/
def signature (m : Method) : Signature :=
  ⟨m.name, m.params.map (·.type)⟩

/-- Does the method carry the annotation? -/
def isAnnotated (m : Method) (marker : ClassName) : Bool :=
  m.annotations.contains marker

/-- The head of the method's declaration: its modifier, the type of its result, its name and its
parameters. -/
def renderHead (m : Method) : String :=
  let params := ", ".intercalate (m.params.map fun p => p.type.render ++ " " ++ p.name)
  let head := m.returnType.render ++ " " ++ m.name ++ "(" ++ params ++ ")"
  match m.visibility.keyword with
  | "" => head
  | keyword => keyword ++ " " ++ head

/-- The class names that the method mentions. -/
def classNames (m : Method) : List ClassName :=
  m.returnType.classNames ++ m.annotations ++ m.params.flatMap (·.type.classNames)
    ++ m.body.flatMap (·.expr.classNames)

end Method

/-- A field of a class. -/
structure Field where
  /-- Its name. -/
  name : String
  /-- Its type. -/
  type : TypeRef
  /-- What the model says about it. -/
  description : Option String
deriving DecidableEq, Repr

/-- A class to be generated. -/
structure ClassDef where
  /-- Its name. -/
  name : ClassName
  /-- What the model says about it. -/
  description : Option String
  /-- Its fields, in order. -/
  fields : List Field
  /-- Its methods, in order. -/
  methods : List Method
deriving DecidableEq, Repr

namespace ClassDef

/-- A class without members. -/
def ofName (name : ClassName) : ClassDef := ⟨name, none, [], []⟩

/-- The class with one more method. -/
def addMethod (c : ClassDef) (m : Method) : ClassDef :=
  { c with methods := c.methods ++ [m] }

/-- The class with one more field. -/
def addField (c : ClassDef) (f : Field) : ClassDef :=
  { c with fields := c.fields ++ [f] }

/-- The first method of that name. -/
def method? (c : ClassDef) (name : String) : Option Method :=
  c.methods.find? fun m => m.name == name

/-- The class names that the members of the class mention. -/
def classNames (c : ClassDef) : List ClassName :=
  c.fields.flatMap (·.type.classNames) ++ c.methods.flatMap (·.classNames)

end ClassDef

/-- The classes to be generated. -/
structure CodeModel where
  /-- The package that the model file asked for. -/
  package : String
  /-- The classes, in order. -/
  classes : List ClassDef
deriving DecidableEq, Repr

namespace CodeModel

/-- The model without classes in the default package. -/
def empty : CodeModel := ⟨"", []⟩

/-- The first class of that simple name. -/
def class? (m : CodeModel) (simple : String) : Option ClassDef :=
  m.classes.find? fun c => c.name.simple == simple

/-- How many fields the classes have together. -/
def fieldCount (m : CodeModel) : Nat := (m.classes.flatMap (·.fields)).length

/-- The model with every class replaced by its image. -/
def mapClasses (f : ClassDef → ClassDef) (m : CodeModel) : CodeModel :=
  { m with classes := m.classes.map f }

end CodeModel

end ClassGen
