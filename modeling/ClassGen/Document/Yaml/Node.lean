/-
# YAML nodes

The tree of a YAML document.  An anchored node has a number, and an alias has the number of the
node it stands for: a name's number is the count of different names before it, so the number of
a name that is used again may be taken over by a later name.  An alias stands for the last node
with its number.
-/
import ClassGen.Document.Yaml.Token

namespace ClassGen.Document.Yaml

/-- A node of a YAML document.  The tags of collections do not matter and are not kept. -/
inductive Node where
  | scalar (anchor : Option Nat) (tag : Option (List Char)) (style : ScalarStyle)
      (text : List Char)
  | sequence (anchor : Option Nat) (items : List Node)
  | mapping (anchor : Option Nat) (entries : List (Node × Node))
  | reference (target : Nat)
deriving Repr

namespace Node

/-- The node that stands where there is nothing. -/
def nothing : Node := scalar none none .plain []

/-- The number of the node itself. -/
def anchor? : Node → Option Nat
  | scalar a _ _ _ => a
  | sequence a _ => a
  | mapping a _ => a
  | reference _ => none

mutual

/-- The node and those in it, each before those in it. -/
def nodes : Node → List Node
  | sequence a items => sequence a items :: nodesOfItems items
  | mapping a entries => mapping a entries :: nodesOfEntries entries
  | n => [n]

/-- The items and the nodes in them. -/
def nodesOfItems : List Node → List Node
  | [] => []
  | n :: ns => nodes n ++ nodesOfItems ns

/-- The keys and values and the nodes in them. -/
def nodesOfEntries : List (Node × Node) → List Node
  | [] => []
  | (k, v) :: es => nodes k ++ nodes v ++ nodesOfEntries es

end

/-- How many marks the node takes: one, or one at the start and one at the end of a
collection. -/
def marks : Node → Nat
  | sequence _ _ => 2
  | mapping _ _ => 2
  | _ => 1

/-- The last node in a document that has the number. -/
def target? (root : Node) (number : Nat) : Option Node :=
  (root.nodes.filter fun n => n.anchor? == some number).getLast?

end Node

end ClassGen.Document.Yaml
