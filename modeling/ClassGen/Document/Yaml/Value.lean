/-
# Values of a YAML document

A value is a node of a document, looked at together with the document, so aliases can be
followed.  Every scalar is a text; a plain one may also be a flag or nothing.  An empty plain
scalar is also an empty list and an empty record.
-/
import ClassGen.Document.Read
import ClassGen.Document.Yaml.Parser

namespace ClassGen.Document.Yaml

/-- A node of a document. -/
structure Value where
  /-- The document. -/
  root : Node
  /-- The node. -/
  node : Node

namespace Value

/-- The texts that stand for nothing. -/
def nullTexts : List String := ["null", "Null", "NULL", "~"]

/-- The texts that stand for flags. -/
def flagTexts : List (String × Bool) :=
  [("true", true), ("True", true), ("TRUE", true),
    ("false", false), ("False", false), ("FALSE", false)]

/-- The tag of nothing. -/
def nullTag : String := "tag:yaml.org,2002:null"

/-- The tag of flags. -/
def boolTag : String := "tag:yaml.org,2002:bool"

/-- The node of the value, or the one that it stands for. -/
def follow (v : Value) : Read Node :=
  match v.node with
  | .reference number => do
    followReference
    match v.root.target? number with
    | some n => pure n
    | none => refuse
  | n => pure n

/-- The text of a scalar. -/
def text (v : Value) : Read String := do
  match ← v.follow with
  | .scalar _ _ _ text => pure (String.ofList text)
  | _ => refuse

/-- The flag that a plain scalar is, or a literal one with the tag of flags. -/
def flag (v : Value) : Read Bool := do
  match ← v.follow with
  | .scalar _ tag style text =>
    let counts := style == .plain || (style == .literal && tag == some boolTag.toList)
    match flagTexts.lookup (String.ofList text) with
    | some b => if counts then pure b else refuse
    | none => refuse
  | _ => refuse

/-- Nothing, if a plain scalar says so; what has a tag is there, unless the tag is the one of
nothing. -/
def optional (v : Value) : Read (Option Value) := do
  let n ← v.follow
  let there : Option Value := some { v with node := n }
  match n with
  | .scalar _ none .plain text =>
    pure (if text.isEmpty || nullTexts.contains (String.ofList text) then none else there)
  | .scalar _ (some tag) .plain text =>
    if tag = nullTag.toList then
      if nullTexts.contains (String.ofList text) then pure none else refuse
    else pure there
  | _ => pure there

/-- Is the node an empty plain scalar? -/
def isEmpty : Node → Bool
  | .scalar _ _ .plain [] => true
  | _ => false

/-- The items of a sequence. -/
def list (v : Value) : Read (List Value) := do
  match ← v.follow with
  | .sequence _ items => pure (items.map fun n => { v with node := n })
  | n => if isEmpty n then pure [] else refuse

/-- The value under a name among entries with their names; a name that occurs twice is
refused. -/
def valueOf (v : Value) (entries : List (String × Node)) (name : String) :
    Read (Option Value) :=
  match entries.filter fun e => e.1 == name with
  | [] => pure none
  | [(_, n)] => pure (some { v with node := n })
  | _ => refuse

/-- The values of a mapping under the given names.  All its keys have to be texts. -/
def record (names : List String) (v : Value) : Read (List (Option Value)) := do
  match ← v.follow with
  | .mapping _ entries =>
    let named ← entries.mapM fun e => do pure (← text { v with node := e.1 }, e.2)
    names.mapM (v.valueOf named)
  | n => if isEmpty n then pure (names.map fun _ => none) else refuse

instance : Format Value where
  text := text
  flag := flag
  optional := optional
  list := list
  record := record

end Value

/-- What is read of the document that the text is.  A reading may follow references a hundred
times as often as the document has marks. -/
def read {α : Type} (reading : Value → Read α) (text : String) : Except ReadError α :=
  match Node.parse? text.toList with
  | none => .error .malformed
  | some root =>
    let marks := (root.nodes.map Node.marks).foldl (· + ·) 0
    (reading ⟨root, root⟩).run? (100 * marks)

end ClassGen.Document.Yaml
