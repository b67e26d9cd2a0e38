/-
# Styles of `toString`

A generated `toString` shows its object in a style: one of the constants of `ToStringStyle`, or an
instance of a class of the user.  The text that selects a style is first taken for the name of a
constant; only if there is no such constant is it taken for the name of a class, which has to be
on the classpath, to extend `ToStringStyle` and to be constructible without arguments.
-/
import ClassGen.Plugin

namespace ClassGen

/-- The constants of `ToStringStyle`. -/
inductive BuiltinStyle where
  | multiLine
  | default
  | noFieldNames
  | shortPrefix
  | simple
  | noClassName
  | json
deriving DecidableEq, Repr

namespace BuiltinStyle

/-- All constants; the first one is the style of a run that selects none. -/
def all : List BuiltinStyle :=
  [multiLine, default, noFieldNames, shortPrefix, simple, noClassName, json]

/-- The name of the constant. -/
def name : BuiltinStyle → String
  | multiLine => "MULTI_LINE_STYLE"
  | default => "DEFAULT_STYLE"
  | noFieldNames => "NO_FIELD_NAMES_STYLE"
  | shortPrefix => "SHORT_PREFIX_STYLE"
  | simple => "SIMPLE_STYLE"
  | noClassName => "NO_CLASS_NAME_STYLE"
  | json => "JSON_STYLE"

/-- The constant of that name. -/
def ofName? (name : String) : Option BuiltinStyle :=
  all.find? fun s => s.name == name

end BuiltinStyle

/-- The style that a `toString` uses. -/
inductive Style where
  /-- A constant. -/
  | named (constant : BuiltinStyle)
  /-- A new instance of a class. -/
  | custom (cls : ClassName)
deriving DecidableEq, Repr

/-- Why a catalog has no constant for a name. -/
inductive LookupError where
  /-- There is no constant of that name. -/
  | noSuchField (name : String)
  /-- The constant must not be read. -/
  | accessDenied (reason : String)
deriving DecidableEq, Repr

/-- The wording of the error. -/
def LookupError.message : LookupError → String
  | .noSuchField name => "no such field: " ++ name
  | .accessDenied reason => reason

/-- Where constants are looked up by name. -/
abbrev StyleCatalog := String → Except LookupError BuiltinStyle

/-- The catalog of the constants that exist. -/
def StyleCatalog.builtin : StyleCatalog := fun name =>
  match BuiltinStyle.ofName? name with
  | some s => .ok s
  | none => .error (.noSuchField name)

namespace Style

/-- The style of a run that selects none. -/
def initial : Style := named .multiLine

/-- The package of the classes that generated methods rely on. -/
def builderPackage : String := "org.apache.commons.lang3.builder"

/-- The class that every style extends. -/
def baseClass : ClassName := ⟨builderPackage, "ToStringStyle"⟩

/-- The declaration of the class that every style extends.  It cannot be constructed. -/
def baseDecl : TypeDecl := ⟨baseClass.full, some Classpath.objectName, false⟩

/-- The style as a text. -/
def render : Style → String
  | named constant => constant.name
  | custom cls => cls.full

/-- The expression for the style. -/
def expr : Style → Expr
  | named constant => .staticField baseClass constant.name
  | custom cls => .construct cls []

/-- Why a text selects no style. -/
inductive Refusal where
  /-- The catalog denies access to the constant. -/
  | denied (reason : String)
  /-- There is no such class. -/
  | notLoaded (cause : LoadError)
  /-- The class of that name does not extend the base class. -/
  | notSubtype (name : String)
  /-- The class of that name cannot be constructed without arguments. -/
  | notConstructible (name : String)
deriving DecidableEq, Repr

/-- The refusal as a plugin reports it. -/
def Refusal.toError : Refusal → ConfigurationError
  | .denied reason => ⟨reason⟩
  | .notLoaded cause => ⟨cause.message⟩
  | .notSubtype name => ⟨name ++ " is not a subtype of " ++ baseClass.full⟩
  | .notConstructible name => ⟨name ++ " has no public no-arg constructor"⟩

/-- The class that the text names, as a style. -/
def resolveClass (cp : Classpath) (text : String) : Except Refusal Style :=
  match cp.load text with
  | .error e => .error (.notLoaded e)
  | .ok decl =>
    if cp.isSubtype decl.name baseClass.full then
      if decl.noArgConstructor then
        match decl.className with
        | .error e => .error (.notLoaded e)
        | .ok cls => .ok (custom cls)
      else .error (.notConstructible decl.name)
    else .error (.notSubtype decl.name)

/-- The style that the text selects. -/
def resolve (catalog : StyleCatalog) (cp : Classpath) (text : String) : Except Refusal Style :=
  match catalog text with
  | .ok constant => .ok (named constant)
  | .error (.accessDenied reason) => .error (.denied reason)
  | .error (.noSuchField _) => resolveClass cp text

end Style

end ClassGen
