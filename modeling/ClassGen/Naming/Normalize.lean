/-
# Names of generated classes and fields

Model files may name classes and fields freely.  A generated class has the words of its name
written together in upper camel case, a field in lower camel case; what then is no usable name is
mended: nothing at all becomes `unnamed`, a leading ASCII digit gets an underscore before it, and
a reserved word gets one after it.
-/
import ClassGen.Naming.Words
import ClassGen.Model.Identifier

namespace ClassGen

/-- The cased name, mended where it is empty, starts with an ASCII digit or is reserved. -/
def mendName (cased : List Char) : String :=
  match cased with
  | [] => "unnamed"
  | c :: _ =>
    if c.isDigit then String.ofList ('_' :: cased)
    else if isReserved (String.ofList cased) then String.ofList (cased ++ ['_'])
    else String.ofList cased

/-- The name of the class that a model calls `name`. -/
def className (name : String) : String :=
  mendName (upperCamel name.toList)

/-- The name of the field that a model calls `name`. -/
def fieldName (name : String) : String :=
  mendName (lowerCamel name.toList)

end ClassGen
