/-
# The classpath

The types that plugins may refer to are declared, each with the type it extends.  A classpath
holds one declaration per name, in the order in which the names were first registered; a later
declaration of a name takes the place of the earlier one.
-/
import ClassGen.Model.ClassName

namespace ClassGen

open Text

/-- A type that is known without being generated. -/
structure TypeDecl where
  /-- Its full name. -/
  name : String
  /-- The full name of the type it extends. -/
  parent : Option String
  /-- Can it be constructed without arguments? -/
  noArgConstructor : Bool
deriving DecidableEq, Repr

/-- Why a type cannot be loaded. -/
inductive LoadError where
  /-- No declaration has that name. -/
  | classNotFound (name : String)
  /-- The text is no class name. -/
  | invalidName (name : String)
deriving DecidableEq, Repr

/-- The wording of the error. -/
def LoadError.message : LoadError → String
  | .classNotFound name => "class not found: " ++ name
  | .invalidName name => "invalid class name: " ++ name

namespace TypeDecl

/-- The declaration of a type that extends nothing in particular. -/
def ofName (name : String) : TypeDecl := ⟨name, none, true⟩

/-- The declaration with the blanks around its names removed. -/
def trimmed (d : TypeDecl) : TypeDecl :=
  { d with name := trim d.name, parent := d.parent.map trim }

/-- The class that the declaration names. -/
def className (d : TypeDecl) : Except LoadError ClassName :=
  match ClassName.parse d.name with
  | .ok name => .ok name
  | .error _ => .error (.invalidName d.name)

/-- The declarations with `d` in place of the one of the same name, or at the end. -/
def put (d : TypeDecl) : List TypeDecl → List TypeDecl
  | [] => [d]
  | e :: es => if e.name = d.name then d :: es else e :: put d es

theorem names_put (d : TypeDecl) (es : List TypeDecl) :
    (put d es).map (·.name) =
      if d.name ∈ es.map (·.name) then es.map (·.name) else es.map (·.name) ++ [d.name] := by
  induction es with
  | nil => simp [put]
  | cons e es ih =>
    by_cases h : e.name = d.name
    · simp [put, h]
    · have h' : ¬ d.name = e.name := fun k => h k.symm
      simp only [put, h, if_false, List.map_cons, ih, List.mem_cons, h', false_or]
      split <;> simp

theorem nodup_put (d : TypeDecl) {es : List TypeDecl} (h : (es.map (·.name)).Nodup) :
    ((put d es).map (·.name)).Nodup := by
  rw [names_put]
  split
  · exact h
  · next hd => exact List.nodup_append.2 ⟨h, by simp, by intro a ha b hb; grind⟩

end TypeDecl

/-- The declared types. -/
structure Classpath where
  /-- The declarations, by the first registration of their names. -/
  decls : List TypeDecl
  /-- No name is declared twice. -/
  nodup : (decls.map (·.name)).Nodup
deriving DecidableEq, Repr

namespace Classpath

/-- The classpath without any type. -/
def empty : Classpath := ⟨[], by simp⟩

/-- The classpath with one more declaration, its names trimmed. -/
def register (cp : Classpath) (d : TypeDecl) : Classpath :=
  ⟨d.trimmed.put cp.decls, d.trimmed.nodup_put cp.nodup⟩

/-- The classpath with more declarations, registered from left to right. -/
def registerAll (cp : Classpath) (ds : List TypeDecl) : Classpath :=
  ds.foldl register cp

/-- The name of the root of all classes. -/
def objectName : String := ClassName.object.full

/-- The classpath that knows the root of all classes only. -/
def base : Classpath := empty.register (.ofName objectName)

/-- The classpath of the root of all classes and these types. -/
def ofDecls (ds : List TypeDecl) : Classpath := base.registerAll ds

/-- The declaration of that name. -/
def find? (cp : Classpath) (name : String) : Option TypeDecl :=
  cp.decls.find? fun d => d.name == name

/-- The number of declarations. -/
def size (cp : Classpath) : Nat := cp.decls.length

/-- The declaration that the trimmed text names. -/
def load (cp : Classpath) (text : String) : Except LoadError TypeDecl :=
  let name := trim text
  match ClassName.parse name with
  | .error _ => .error (.invalidName name)
  | .ok _ =>
    match cp.find? name with
    | some d => .ok d
    | none => .error (.classNotFound name)

/-- The name that the type of that name extends. -/
def parent? (cp : Classpath) (name : String) : Option String :=
  (cp.find? name).bind (·.parent)

/-- Is `ancestor` met within `steps` links upwards from `name`? -/
def reaches (cp : Classpath) (ancestor : String) : Nat → String → Bool
  | 0, name => name == ancestor
  | steps + 1, name =>
    name == ancestor ||
      match cp.parent? name with
      | some next => reaches cp ancestor steps next
      | none => false

/-- Is the type of the first name the one of the second, or does it extend it through any number
of declarations?  A chain that meets no type twice has at most as many links as there are
declarations. -/
def isSubtype (cp : Classpath) (name ancestor : String) : Bool :=
  cp.reaches ancestor cp.size name

end Classpath

end ClassGen
