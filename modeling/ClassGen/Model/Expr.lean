/-
# Expressions and statements

The little of the generated language that method bodies need: the receiver, variables, static
fields, construction, static calls, and a statement that returns a value.
-/
import ClassGen.Model.ClassName

namespace ClassGen

/-- An expression of a method body. -/
inductive Expr where
  /-- The receiver of the method. -/
  | this
  /-- A variable or parameter. -/
  | var (name : String)
  /-- A static field of a class. -/
  | staticField (owner : ClassName) (field : String)
  /-- A new instance of a class. -/
  | construct (cls : ClassName) (args : List Expr)
  /-- A call of a static method of a class. -/
  | invoke (owner : ClassName) (method : String) (args : List Expr)
deriving Repr

namespace Expr

mutual

/-- Are the two expressions the same? -/
def same : Expr → Expr → Bool
  | this, this => true
  | var x, var y => x == y
  | staticField c f, staticField d g => c == d && f == g
  | construct c as, construct d bs => c == d && sameAll as bs
  | invoke c m as, invoke d n bs => c == d && m == n && sameAll as bs
  | _, _ => false

/-- Are the two lists of expressions the same? -/
def sameAll : List Expr → List Expr → Bool
  | [], [] => true
  | a :: as, b :: bs => same a b && sameAll as bs
  | _, _ => false

end

mutual

theorem same_iff : ∀ a b : Expr, same a b = true ↔ a = b
  | this, b => by cases b <;> simp [same]
  | var x, b => by cases b <;> simp [same]
  | staticField c f, b => by cases b <;> simp [same]
  | construct c as, b => by cases b <;> simp [same, sameAll_iff as]
  | invoke c m as, b => by cases b <;> simp [same, sameAll_iff as, and_assoc]

theorem sameAll_iff : ∀ as bs : List Expr, sameAll as bs = true ↔ as = bs
  | [], bs => by cases bs <;> simp [sameAll]
  | a :: as, bs => by cases bs <;> simp [sameAll, same_iff a, sameAll_iff as]

end

instance : DecidableEq Expr := fun a b =>
  decidable_of_iff (same a b = true) (same_iff a b)

/-- The expression with one more argument.  Only constructions and calls take arguments; any
other expression stays as it is. -/
def withArg (e arg : Expr) : Expr :=
  match e with
  | construct cls args => construct cls (args ++ [arg])
  | invoke owner method args => invoke owner method (args ++ [arg])
  | _ => e

mutual

/-- The class names in the expression, each before those of its arguments. -/
def classNames : Expr → List ClassName
  | this => []
  | var _ => []
  | staticField owner _ => [owner]
  | construct cls args => cls :: classNamesAll args
  | invoke owner _ args => owner :: classNamesAll args

/-- The class names in the expressions, from left to right. -/
def classNamesAll : List Expr → List ClassName
  | [] => []
  | e :: es => classNames e ++ classNamesAll es

end

mutual

/-- The expression as a text, with simple class names. -/
def render : Expr → String
  | this => "this"
  | var name => name
  | staticField owner field => owner.simple ++ "." ++ field
  | construct cls args => "new " ++ cls.simple ++ "(" ++ renderAll args ++ ")"
  | invoke owner method args => owner.simple ++ "." ++ method ++ "(" ++ renderAll args ++ ")"

/-- The arguments of a call, with a comma and a space between neighbours. -/
def renderAll : List Expr → String
  | [] => ""
  | e :: es => render e ++ renderRest es

/-- The arguments after the first one, each after a comma and a space. -/
def renderRest : List Expr → String
  | [] => ""
  | e :: es => ", " ++ render e ++ renderRest es

end

end Expr

/-- A statement of a method body. -/
inductive Statement where
  /-- Return the value of an expression. -/
  | returns (value : Expr)
deriving DecidableEq, Repr

namespace Statement

/-- The expression of the statement. -/
def expr : Statement → Expr
  | returns value => value

/-- The statement as a text. -/
def render : Statement → String
  | returns value => "return " ++ value.render ++ ";"

end Statement

end ClassGen
