/-
# JSON values

A value of a JSON document.  A string keeps what its escapes say, so one that holds half of a
surrogate pair is a value but no text.  A record may also be written as the list of its values.
-/
import ClassGen.Document.Read

namespace ClassGen.Document

/-- A JSON value. -/
inductive Json where
  | null
  | bool (value : Bool)
  /-- A number.  Nothing that is read is one, so its digits are not kept. -/
  | number
  /-- A string, with its text if it is one. -/
  | string (text : Option String)
  | array (items : List Json)
  /-- The names and values of an object, in order; a name may occur more than once. -/
  | object (entries : List (Option String × Json))

namespace Json

/-- The values under a name, in order. -/
def valuesOf (name : String) (entries : List (Option String × Json)) : List Json :=
  entries.filterMap fun e => if e.1 = some name then some e.2 else none

/-- The one value under a name, or nothing; a name that occurs twice is refused. -/
def valueOf (entries : List (Option String × Json)) (name : String) : Read (Option Json) :=
  match valuesOf name entries with
  | [] => pure none
  | [v] => pure (some v)
  | _ => refuse

/-- The values of a record under the given names. -/
def recordValues (names : List String) : Json → Read (List (Option Json))
  | object entries =>
    if entries.all (fun e => e.1.isSome) then names.mapM (valueOf entries) else refuse
  | array items => if items.length ≤ names.length then pure (items.map some) else refuse
  | _ => refuse

instance : Format Json where
  text
    | string (some text) => pure text
    | _ => refuse
  flag
    | bool value => pure value
    | _ => refuse
  optional
    | null => pure none
    | v => pure (some v)
  list
    | array items => pure items
    | _ => refuse
  record := recordValues

end Json

end ClassGen.Document
