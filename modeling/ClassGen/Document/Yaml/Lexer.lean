/-
# Reading YAML tokens

Tokens are read from left to right.  In block context the column of a token tells which blocks
end before it.  That a scalar or a collection was a key shows only at the colon after it, so the
places where a key may have started are remembered, one for each level of flow collections; such
a key lies on one line and has at most 1024 characters.
-/
import ClassGen.Document.Yaml.Plain
import ClassGen.Document.Yaml.Block
import ClassGen.Document.Yaml.Tag

namespace ClassGen.Document.Yaml

/-- A place where a key may have started. -/
structure PossibleKey where
  /-- The number of tokens before it. -/
  position : Nat
  /-- The place in the text. -/
  cursor : Cursor
  /-- Does the block around it allow nothing but a key there? -/
  required : Bool

/-- The state of reading tokens. -/
structure Lexer where
  /-- The place that has been reached. -/
  cursor : Cursor
  /-- The tokens read. -/
  tokens : Array Token
  /-- One more than the column of the innermost block; zero outside all blocks. -/
  level : Nat
  /-- The same of the blocks around it, from the inside out. -/
  outerLevels : List Nat
  /-- May a key start here? -/
  keyAllowed : Bool
  /-- Where a key may have started, on this level of flow collections. -/
  key : Option PossibleKey
  /-- The same of the levels around it, from the inside out. -/
  outerKeys : List (Option PossibleKey)

namespace Lexer

/-- The state at the start of a text. -/
def start (cs : List Char) : Lexer :=
  let c := Cursor.start cs
  ⟨if c.at? '\ufeff' then ⟨cs.drop 1, 0, 0, 0⟩ else c, #[], 0, [], true, none, []⟩

/-- Is the place within a flow collection? -/
def inFlow (l : Lexer) : Bool := !l.outerKeys.isEmpty

/-- The state with one more token, and another place. -/
def emit (l : Lexer) (t : Token) (c : Cursor) : Lexer :=
  { l with tokens := l.tokens.push t, cursor := c }

/-- The state with a token put before the `n`-th one. -/
def insert (l : Lexer) (n : Nat) (t : Token) : Lexer :=
  { l with
    tokens := (l.tokens.extract 0 n).push t ++ l.tokens.extract n l.tokens.size }

/-- Can a key that started at that place not end here any more? -/
def isStale (l : Lexer) (k : PossibleKey) : Bool :=
  decide (k.cursor.line < l.cursor.line) || decide (k.cursor.index + 1024 < l.cursor.index)

/-- The possible keys without those that cannot end here any more; one that is required must not
be among these. -/
def freshKeys? (l : Lexer) : List (Option PossibleKey) → Option (List (Option PossibleKey))
  | [] => some []
  | none :: ks => (freshKeys? l ks).map (none :: ·)
  | some k :: ks =>
    if l.isStale k then
      if k.required then none else (freshKeys? l ks).map (none :: ·)
    else (freshKeys? l ks).map (some k :: ·)

/-- The state without the keys that cannot end here any more. -/
def dropStaleKeys? (l : Lexer) : Option Lexer :=
  match l.freshKeys? (l.key :: l.outerKeys) with
  | some (key :: outer) => some { l with key := key, outerKeys := outer }
  | _ => none

/-- The state after giving up the key of this level; one that is required cannot be given up. -/
def forgetKey? (l : Lexer) : Option Lexer :=
  match l.key with
  | some k => if k.required then none else some { l with key := none }
  | none => some l

/-- The state with a possible key at this place, if one is allowed here. -/
def saveKey? (l : Lexer) : Option Lexer :=
  if l.keyAllowed then
    let required := !l.inFlow && l.level == l.cursor.column + 1
    l.forgetKey?.map fun l =>
      { l with key := some ⟨l.tokens.size, l.cursor, required⟩ }
  else some l

/-- The state with a block opened at a column, unless the innermost block is there already.  Its
token stands before the `n`-th one. -/
def openBlock (l : Lexer) (column n : Nat) (t : Token) : Lexer :=
  if l.inFlow || decide (column < l.level) then l
  else { l.insert n t with level := column + 1, outerLevels := l.level :: l.outerLevels }

/-- The state with those of the `levels` around the innermost block ended that are too deep for
content of at least `level`, counted like the levels. -/
def endBlocks (l : Lexer) (level : Nat) : List Nat → Lexer
  | [] => l
  | outer :: levels =>
    if level < l.level then
      endBlocks { l.emit .blockEnd l.cursor with level := outer, outerLevels := levels } level
        levels
    else l

/-- The state with the blocks ended that are too deep for content of at least `level`. -/
def closeBlocks (l : Lexer) (level : Nat) : Lexer :=
  if l.inFlow then l else l.endBlocks level l.outerLevels

/-- Skip blanks, comments and line breaks before a token.  A tab does not count as a blank where
a key may start in block context. -/
def skipToToken : Nat → Lexer → Lexer
  | 0, l => l
  | fuel + 1, l =>
    let c := l.cursor
    let c := if c.column == 0 && c.at? '\ufeff' then c.advance 1 else c
    let tabs := l.inFlow || !l.keyAllowed
    let c := c.skipWhile fun x => x == ' ' || (tabs && x == '\t')
    let c := if c.at? '#' then c.skipLine else c
    if c.atBreak then
      skipToToken fuel
        { l with cursor := c.skipBreak, keyAllowed := l.keyAllowed || !l.inFlow }
    else { l with cursor := c }

/-- The state after the end of the text. -/
def atEnd? (l : Lexer) : Option Lexer :=
  ((l.closeBlocks 0).forgetKey?).map fun l => l.emit .streamEnd l.cursor

/-- The state after a directive. -/
def atDirective? (l : Lexer) : Option Lexer :=
  match (l.closeBlocks 0).forgetKey?, directive? l.cursor with
  | some l, some (t, c) => some { l.emit t c with keyAllowed := false }
  | _, _ => none

/-- The state after a line that separates documents. -/
def atDocumentMark? (l : Lexer) (t : Token) : Option Lexer :=
  (l.closeBlocks 0).forgetKey?.map fun l =>
    { l.emit t (l.cursor.advance 3) with keyAllowed := false }

/-- The state after the bracket that opens a flow collection. -/
def atFlowStart? (l : Lexer) (t : Token) : Option Lexer :=
  l.saveKey?.map fun l =>
    { l.emit t (l.cursor.advance 1) with
      keyAllowed := true, key := none, outerKeys := l.key :: l.outerKeys }

/-- The state after the bracket that closes a flow collection. -/
def atFlowEnd? (l : Lexer) (t : Token) : Option Lexer :=
  l.forgetKey?.map fun l =>
    let l := { l.emit t (l.cursor.advance 1) with keyAllowed := false }
    match l.outerKeys with
    | [] => l
    | key :: outer => { l with key := key, outerKeys := outer }

/-- The state after a comma in a flow collection. -/
def atFlowEntry? (l : Lexer) : Option Lexer :=
  l.forgetKey?.map fun l =>
    { l.emit .flowEntry (l.cursor.advance 1) with keyAllowed := true }

/-- The state with a block opened at this place, where it is allowed to start. -/
def openHere? (l : Lexer) (t : Token) : Option Lexer :=
  if l.inFlow then some l
  else if l.keyAllowed then some (l.openBlock l.cursor.column l.tokens.size t)
  else none

/-- The state after the dash before an entry of a sequence. -/
def atBlockEntry? (l : Lexer) : Option Lexer :=
  ((l.openHere? .blockSequenceStart).bind forgetKey?).map fun l =>
    { l.emit .blockEntry (l.cursor.advance 1) with keyAllowed := true }

/-- The state after the question mark before a key. -/
def atKey? (l : Lexer) : Option Lexer :=
  ((l.openHere? .blockMappingStart).bind forgetKey?).map fun l =>
    { l.emit .key (l.cursor.advance 1) with keyAllowed := !l.inFlow }

/-- The state after the colon before a value. -/
def atValue? (l : Lexer) : Option Lexer :=
  match l.key with
  | some k =>
    let l := (l.insert k.position .key).openBlock k.cursor.column k.position .blockMappingStart
    some { l.emit .value (l.cursor.advance 1) with key := none, keyAllowed := false }
  | none =>
    (l.openHere? .blockMappingStart).map fun l =>
      { l.emit .value (l.cursor.advance 1) with keyAllowed := !l.inFlow }

/-- The state after a token that may start a key, as read at this place. -/
def atKeyStart? (l : Lexer) (read : Option (Token × Cursor)) : Option Lexer :=
  match l.saveKey?, read with
  | some l, some (t, c) => some { l.emit t c with keyAllowed := false }
  | _, _ => none

/-- The state after a plain scalar. -/
def atPlain? (l : Lexer) : Option Lexer :=
  match l.saveKey?, plain? l.inFlow l.level l.cursor with
  | some l, some s =>
    some { l.emit (.scalar .plain s.text) s.cursor with keyAllowed := s.overLine }
  | _, _ => none

/-- The state after a block scalar. -/
def atBlockScalar? (l : Lexer) (style : ScalarStyle) : Option Lexer :=
  match l.forgetKey?, block? (style == .folded) l.level l.cursor with
  | some l, some (text, c) => some { l.emit (.scalar style text) c with keyAllowed := true }
  | _, _ => none

/-- Can a plain scalar start at the place with the character `x`, which is none of the indicators
that have been tried before? -/
def plainStarts (l : Lexer) (x : Char) : Bool :=
  let c := l.cursor
  !(isSpaceOrTab x || isBreak x || ['-', '?', ':', ',', '[', ']', '\x7b', '\x7d', '#', '&', '*',
    '!', '|', '>', '\'', '"', '%', '@', '\x60'].contains x)
    || (x == '-' && !(c.advance 1).atSpaceOrTab)
    || (!l.inFlow && (x == '?' || x == ':') && !c.gapAfter 1)

/-- The state after the token at this place, which starts with the character `x`. -/
def atToken? (l : Lexer) (x : Char) : Option Lexer :=
  let c := l.cursor
  if x = '%' ∧ c.column = 0 then l.atDirective?
  else if c.atDocumentMark then
    l.atDocumentMark? (if x = '-' then .documentStart else .documentEnd)
  else if x = '[' then l.atFlowStart? .flowSequenceStart
  else if x = '\x7b' then l.atFlowStart? .flowMappingStart
  else if x = ']' then l.atFlowEnd? .flowSequenceEnd
  else if x = '\x7d' then l.atFlowEnd? .flowMappingEnd
  else if x = ',' then l.atFlowEntry?
  else if x = '-' ∧ c.gapAfter 1 then l.atBlockEntry?
  else if x = '?' ∧ (l.inFlow ∨ c.gapAfter 1) then l.atKey?
  else if x = ':' ∧ (l.inFlow ∨ c.gapAfter 1) then l.atValue?
  else if x = '*' then l.atKeyStart? ((anchorName? c).map fun (n, c) => (.reference n, c))
  else if x = '&' then l.atKeyStart? ((anchorName? c).map fun (n, c) => (.anchor n, c))
  else if x = '!' then l.atKeyStart? (tag? l.inFlow c)
  else if x = '|' ∧ ¬ l.inFlow then l.atBlockScalar? .literal
  else if x = '>' ∧ ¬ l.inFlow then l.atBlockScalar? .folded
  else if x = '\'' then
    l.atKeyStart? ((quoted? false c).map fun (s, c) => (.scalar .singleQuoted s, c))
  else if x = '"' then
    l.atKeyStart? ((quoted? true c).map fun (s, c) => (.scalar .doubleQuoted s, c))
  else if l.plainStarts x then l.atPlain?
  else none

/-- Read tokens up to the end of the text.  The first argument bounds the recursion; every token
but the last takes a character, so the number of characters is enough. -/
def run? : Nat → Lexer → Option (Array Token)
  | 0, _ => none
  | fuel + 1, l =>
    match (skipToToken (l.cursor.rest.length + 1) l).dropStaleKeys? with
    | none => none
    | some l =>
      let l := l.closeBlocks (l.cursor.column + 1)
      match l.cursor.rest with
      | [] => l.atEnd?.map (·.tokens)
      | x :: _ => (l.atToken? x).bind (run? fuel)

end Lexer

/-- The tokens of a text. -/
def Token.scan? (cs : List Char) : Option (List Token) :=
  if cs.all isAllowed then ((Lexer.start cs).run? (cs.length + 1)).map (·.toList) else none

end ClassGen.Document.Yaml
