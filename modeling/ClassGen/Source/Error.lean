/-
# Why a class cannot be rendered
-/
import ClassGen.Model.Class

namespace ClassGen

/-- Why the source text of a class is refused. -/
inductive RenderError where
  /-- Two methods of the class have one signature. -/
  | duplicateMethod (cls : ClassName) (signature : Signature)
  /-- The class would have to import two classes of one simple name, or one of its own. -/
  | nameClash (cls first second : ClassName)
deriving DecidableEq, Repr

/-- The wording of the error. -/
def RenderError.message : RenderError → String
  | .duplicateMethod cls signature =>
    "duplicate method " ++ signature.render ++ " in class " ++ cls.full
  | .nameClash cls first second =>
    "class " ++ cls.simple ++ " references both " ++ first.full ++ " and " ++ second.full

end ClassGen
