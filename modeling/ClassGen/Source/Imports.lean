/-
# Imports

A class imports every class that its members mention, unless it is known by its simple name
anyway: classes written without a package, those of `java.lang` and those of its own package.
Simple names of imports must differ from one another and from the name of the class.
-/
import ClassGen.Ascending
import ClassGen.Source.Error

namespace ClassGen

namespace ClassName

/-- Does a class of the given package have to import the class? -/
def needsImport (package : String) (c : ClassName) : Bool :=
  c.package != "" && c.package != langPackage && c.package != package

/-- The first two names with one simple name, when the names `seen` come first. -/
def clash? (seen : List ClassName) : List ClassName → Option (ClassName × ClassName)
  | [] => none
  | c :: cs =>
    match seen.find? (fun s => s.simple == c.simple) with
    | some first => some (first, c)
    | none => clash? (c :: seen) cs

end ClassName

namespace ClassDef

/-- The classes that the class has to import, in ascending order. -/
def imported (c : ClassDef) : List ClassName :=
  Ascending.ofList ClassName.lt (c.classNames.filter (·.needsImport c.name.package))

/-- The full names that the class imports, in ascending order. -/
def imports (c : ClassDef) : Except RenderError (List String) :=
  match ClassName.clash? [c.name] c.imported with
  | some (first, second) => .error (.nameClash c.name first second)
  | none => .ok (Ascending.ofList (fun s t => decide (s < t)) (c.imported.map (·.full)))

end ClassDef

end ClassGen
