/-
# Reading YAML nodes

The tokens of a text are read as one document.  A key or value that is missing counts as an empty
plain scalar.
-/
import ClassGen.Document.Yaml.Node
import ClassGen.Document.Yaml.Lexer

namespace ClassGen.Document.Yaml

/-- The state of reading nodes. -/
structure Parser where
  /-- The tokens that are left. -/
  tokens : List Token
  /-- The number that each name of an anchor has at this place. -/
  anchors : List (List Char × Nat)
  /-- What the handles of tags stand for. -/
  handles : List (List Char × List Char)

/-- A reading of nodes that may find something else. -/
abbrev Parse (α : Type) := StateT Parser Option α

namespace Parse

/-- The reading that finds something else. -/
def fail {α : Type} : Parse α := fun _ => none

/-- The next token; the end of the text, if there is none. -/
def peek : Parse Token := fun p => some (p.tokens.headD .streamEnd, p)

/-- Go on to the token after the next one. -/
def skip : Parse Unit := fun p => some ((), { p with tokens := p.tokens.drop 1 })

/-- Is the next token one of these? -/
def nextIs (ts : List Token) : Parse Bool := do
  pure (ts.contains (← peek))

/-- Go on to the token after the next one if the next one is `t`. -/
def skipIf (t : Token) : Parse Bool := do
  if (← peek) = t then
    skip
    pure true
  else pure false

/-- Give a name of an anchor its number. -/
def number (name : List Char) : Parse Nat := fun p =>
  let n := p.anchors.length
  some (n, { p with anchors := (name, n) :: p.anchors.filter fun a => a.1 != name })

/-- The number that a name of an anchor has. -/
def numberOf (name : List Char) : Parse Nat := fun p =>
  match p.anchors.find? fun a => a.1 == name with
  | some (_, n) => some (n, p)
  | none => none

/-- The tag of that handle and suffix.  The tag `!` alone is none. -/
def tagOf (handle suffix : List Char) : Parse (Option (List Char)) := fun p =>
  let plain (t : List Char) := if t = ['!'] then none else some t
  if handle.isEmpty then some (plain suffix, p)
  else
    match p.handles.find? fun h => h.1 == handle with
    | some (_, expansion) => some (plain (expansion ++ suffix), p)
    | none => none

/-- The anchor and the tag before a node, in either order. -/
structure Properties where
  /-- The name of the anchor. -/
  anchor : Option (List Char)
  /-- The handle and the suffix of the tag. -/
  tag : Option (List Char × List Char)

/-- Read an anchor and a tag. -/
def properties : Parse Properties := do
  match ← peek with
  | .anchor name =>
    skip
    match ← peek with
    | .tag handle suffix =>
      skip
      pure ⟨some name, some (handle, suffix)⟩
    | _ => pure ⟨some name, none⟩
  | .tag handle suffix =>
    skip
    match ← peek with
    | .anchor name =>
      skip
      pure ⟨some name, some (handle, suffix)⟩
    | _ => pure ⟨none, some (handle, suffix)⟩
  | _ => pure ⟨none, none⟩

mutual

/-- Read a node.  Block collections are read in block context only, and a sequence without
indentation of its own only where it may stand.  The first argument bounds the recursion. -/
def node (block unindented : Bool) : Nat → Parse Node
  | 0 => fail
  | fuel + 1 => do
    if let .reference name ← peek then
      skip
      return .reference (← numberOf name)
    let ps ← properties
    let tag ← match ps.tag with
      | some (handle, suffix) => tagOf handle suffix
      | none => pure none
    let next ← peek
    if next = .blockEntry ∧ unindented then
      let anchor ← ps.anchor.mapM number
      return .sequence anchor (← unindentedItems fuel)
    match next with
    | .scalar style text =>
      skip
      return .scalar (← ps.anchor.mapM number) tag style text
    | .flowSequenceStart =>
      skip
      let anchor ← ps.anchor.mapM number
      return .sequence anchor (← flowItems true fuel)
    | .flowMappingStart =>
      skip
      let anchor ← ps.anchor.mapM number
      return .mapping anchor (← flowEntries true fuel)
    | .blockSequenceStart =>
      if block then
        skip
        let anchor ← ps.anchor.mapM number
        return .sequence anchor (← blockItems fuel)
    | .blockMappingStart =>
      if block then
        skip
        let anchor ← ps.anchor.mapM number
        return .mapping anchor (← blockEntries fuel)
    | _ => pure ()
    if ps.anchor.isSome || ps.tag.isSome then
      return .scalar (← ps.anchor.mapM number) tag .plain []
    fail

/-- Read a node in block context, or nothing before one of these tokens. -/
def blockNodeUnless (ends : List Token) (unindented : Bool) : Nat → Parse Node
  | 0 => fail
  | fuel + 1 => do
    if ← nextIs ends then pure .nothing else node true unindented fuel

/-- Read a node in flow context, or nothing before one of these tokens. -/
def flowNodeUnless (ends : List Token) : Nat → Parse Node
  | 0 => fail
  | fuel + 1 => do
    if ← nextIs ends then pure .nothing else node false false fuel

/-- Read the items of a block sequence and its end. -/
def blockItems : Nat → Parse (List Node)
  | 0 => fail
  | fuel + 1 => do
    if ← skipIf .blockEntry then
      let item ← blockNodeUnless [.blockEntry, .blockEnd] false fuel
      return item :: (← blockItems fuel)
    if ← skipIf .blockEnd then return []
    fail

/-- Read the items of a sequence that has no indentation of its own. -/
def unindentedItems : Nat → Parse (List Node)
  | 0 => fail
  | fuel + 1 => do
    if ← skipIf .blockEntry then
      let item ← blockNodeUnless [.blockEntry, .key, .value, .blockEnd] false fuel
      return item :: (← unindentedItems fuel)
    return []

/-- Read the entries of a block mapping and its end. -/
def blockEntries : Nat → Parse (List (Node × Node))
  | 0 => fail
  | fuel + 1 => do
    if ← skipIf .key then
      let key ← blockNodeUnless [.key, .value, .blockEnd] true fuel
      let value ← if ← skipIf .value
        then blockNodeUnless [.key, .value, .blockEnd] true fuel
        else pure .nothing
      return (key, value) :: (← blockEntries fuel)
    if ← skipIf .blockEnd then return []
    fail

/-- Read the only entry of a mapping that is written without brackets in a flow sequence, after
the sign before its key.  A key that is missing takes the token in its place. -/
def flowPair : Nat → Parse (Node × Node)
  | 0 => fail
  | fuel + 1 => do
    let key ← if ← nextIs [.value, .flowEntry, .flowSequenceEnd] then
      skip
      pure Node.nothing
    else node false false fuel
    let value ← if ← skipIf .value
      then flowNodeUnless [.flowEntry, .flowSequenceEnd] fuel
      else pure .nothing
    return (key, value)

/-- Read the items of a flow sequence and its end; all but the first need a comma before
them. -/
def flowItems (first : Bool) : Nat → Parse (List Node)
  | 0 => fail
  | fuel + 1 => do
    if ← skipIf .flowSequenceEnd then return []
    if !first then
      unless ← skipIf .flowEntry do fail
      if ← skipIf .flowSequenceEnd then return []
    let item ← if ← skipIf .key
      then do pure (.mapping none [← flowPair fuel])
      else node false false fuel
    return item :: (← flowItems false fuel)

/-- Read the entries of a flow mapping and its end; all but the first need a comma before
them. -/
def flowEntries (first : Bool) : Nat → Parse (List (Node × Node))
  | 0 => fail
  | fuel + 1 => do
    if ← skipIf .flowMappingEnd then return []
    if !first then
      unless ← skipIf .flowEntry do fail
      if ← skipIf .flowMappingEnd then return []
    let entry ← if ← skipIf .key then do
        let key ← flowNodeUnless [.value, .flowEntry, .flowMappingEnd] fuel
        let value ← if ← skipIf .value
          then flowNodeUnless [.flowEntry, .flowMappingEnd] fuel
          else pure .nothing
        pure (key, value)
      else do pure (← node false false fuel, .nothing)
    return entry :: (← flowEntries false fuel)

end

/-- What the handles of tags stand for unless a document says otherwise. -/
def commonHandles : List (List Char × List Char) :=
  [(['!'], ['!']), (['!', '!'], "tag:yaml.org,2002:".toList)]

/-- Read the directives before a document: whether there was a version among those read before,
and what the handles of tags stand for. -/
def directives (versioned : Bool) (handles : List (List Char × List Char)) :
    List Token → Option (List (List Char × List Char) × List Token)
  | .versionDirective major minor :: rest =>
    if versioned || major != 1 || !(minor == 1 || minor == 2) then none
    else directives true handles rest
  | .tagDirective handle expansion :: rest =>
    if handles.any fun h => h.1 == handle then none
    else directives versioned (handles ++ [(handle, expansion)]) rest
  | rest => some (handles, rest)

/-- Read the content of a document that starts with a line of its own. -/
def content (fuel : Nat) : Parse Node := do
  match ← peek with
  | .versionDirective _ _ | .tagDirective _ _ | .documentStart | .documentEnd | .streamEnd =>
    pure .nothing
  | _ => node true false fuel

end Parse

namespace Node

/-- The node of the one document that the tokens make; nothing, if there is none. -/
def ofTokens? (tokens : List Token) : Option Node :=
  let fuel := 4 * tokens.length + 4
  let read : Option (Node × Parser) :=
    match tokens with
    | [] | .streamEnd :: _ => some (nothing, ⟨[], [], []⟩)
    | .versionDirective _ _ :: _ | .tagDirective _ _ :: _ | .documentStart :: _ =>
      match Parse.directives false [] tokens with
      | some (handles, .documentStart :: rest) =>
        Parse.content fuel ⟨rest, [], handles ++ Parse.commonHandles⟩
      | _ => none
    | _ => Parse.node true false fuel ⟨tokens, [], Parse.commonHandles⟩
  match read with
  | none => none
  | some (root, p) =>
    match p.tokens.dropWhile (· == .documentEnd) with
    | [] | .streamEnd :: _ => some root
    | _ => none

/-- The node of the one document that the text is. -/
def parse? (cs : List Char) : Option Node :=
  (Token.scan? cs).bind ofTokens?

end Node

end ClassGen.Document.Yaml
