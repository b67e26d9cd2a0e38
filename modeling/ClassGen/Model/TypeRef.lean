/-
# Type references

A type is a primitive one, a class with type arguments, or an array of a type.  As a text it
shows simple names only: `Map<String, byte[]>`.
-/
import ClassGen.Model.ClassName

namespace ClassGen

/-- The primitive types, and `void` for a method that returns nothing. -/
inductive Primitive where
  | boolean
  | byte
  | char
  | short
  | int
  | long
  | float
  | double
  | void
deriving DecidableEq, Repr

namespace Primitive

/-- All primitive types. -/
def all : List Primitive := [boolean, byte, char, short, int, long, float, double, void]

/-- The word that stands for the type. -/
def keyword : Primitive → String
  | boolean => "boolean"
  | byte => "byte"
  | char => "char"
  | short => "short"
  | int => "int"
  | long => "long"
  | float => "float"
  | double => "double"
  | void => "void"

/-- The primitive type that the word stands for. -/
def ofKeyword? (word : String) : Option Primitive :=
  all.find? fun p => p.keyword == word

end Primitive

/-- A type as it is written for a field, a parameter or a result. -/
inductive TypeRef where
  /-- A primitive type. -/
  | primitive (p : Primitive)
  /-- A class, with the arguments between angle brackets. -/
  | named (name : ClassName) (args : List TypeRef)
  /-- An array. -/
  | array (element : TypeRef)
deriving Repr

namespace TypeRef

mutual

/-- Are the two types the same? -/
def same : TypeRef → TypeRef → Bool
  | primitive p, primitive q => p == q
  | named m as, named n bs => m == n && sameAll as bs
  | array a, array b => same a b
  | _, _ => false

/-- Are the two lists of types the same? -/
def sameAll : List TypeRef → List TypeRef → Bool
  | [], [] => true
  | a :: as, b :: bs => same a b && sameAll as bs
  | _, _ => false

end

mutual

theorem same_iff : ∀ a b : TypeRef, same a b = true ↔ a = b
  | primitive p, b => by cases b <;> simp [same]
  | named m as, b => by cases b <;> simp [same, sameAll_iff as]
  | array a, b => by cases b <;> simp [same, same_iff a]

theorem sameAll_iff : ∀ as bs : List TypeRef, sameAll as bs = true ↔ as = bs
  | [], bs => by cases bs <;> simp [sameAll]
  | a :: as, bs => by cases bs <;> simp [sameAll, same_iff a, sameAll_iff as]

end

instance : DecidableEq TypeRef := fun a b =>
  decidable_of_iff (same a b = true) (same_iff a b)

/-- A class without type arguments. -/
def ofClass (name : ClassName) : TypeRef := named name []

/-- Is it the type of a method that returns nothing? -/
def isVoid : TypeRef → Bool
  | primitive .void => true
  | _ => false

/-- Is it a primitive type? -/
def isPrimitive : TypeRef → Bool
  | primitive _ => true
  | _ => false

mutual

/-- The class names in the type, each before those of its arguments. -/
def classNames : TypeRef → List ClassName
  | primitive _ => []
  | named name args => name :: classNamesAll args
  | array element => classNames element

/-- The class names in the types, from left to right. -/
def classNamesAll : List TypeRef → List ClassName
  | [] => []
  | t :: ts => classNames t ++ classNamesAll ts

end

mutual

/-- The type as a text, with simple names. -/
def render : TypeRef → String
  | primitive p => p.keyword
  | named name [] => name.simple
  | named name (arg :: args) => name.simple ++ "<" ++ render arg ++ renderRest args ++ ">"
  | array element => render element ++ "[]"

/-- The type arguments after the first one, each after a comma and a space. -/
def renderRest : List TypeRef → String
  | [] => ""
  | t :: ts => ", " ++ render t ++ renderRest ts

end

mutual

/-- The type with every class name replaced by its image. -/
def mapNames (f : ClassName → ClassName) : TypeRef → TypeRef
  | primitive p => primitive p
  | named name args => named (f name) (mapNamesAll f args)
  | array element => array (mapNames f element)

/-- The types with every class name replaced by its image. -/
def mapNamesAll (f : ClassName → ClassName) : List TypeRef → List TypeRef
  | [] => []
  | t :: ts => mapNames f t :: mapNamesAll f ts

end

end TypeRef

end ClassGen
