/-
# A place in a YAML text

The rest of the text at a place, with the number of characters before it, its line and its
column.  Line breaks are the line feed, the carriage return, both together, and the line and
paragraph separators of Unicode.
-/

namespace ClassGen.Document.Yaml

/-- May the character occur in a YAML text?  Control characters may not, apart from tabs and line
breaks. -/
def isAllowed (c : Char) : Bool :=
  let n := c.toNat
  n == 0x09 || n == 0x0A || n == 0x0D || (decide (0x20 ≤ n) && decide (n ≤ 0x7E)) || n == 0x85
    || (decide (0xA0 ≤ n) && n != 0xFFFE && n != 0xFFFF)

/-- Does the character end a line? -/
def isBreak (c : Char) : Bool :=
  c == '\n' || c == '\r' || c == '\u0085' || c == '\u2028' || c == '\u2029'

/-- Is the character a space or a tab? -/
def isSpaceOrTab (c : Char) : Bool :=
  c == ' ' || c == '\t'

/-- Can the character be part of the name of an anchor, of a directive or of a tag? -/
def isNameChar (c : Char) : Bool :=
  c.isAlphanum || c == '_' || c == '-'

/-- A place in a text. -/
structure Cursor where
  /-- The characters from the place on. -/
  rest : List Char
  /-- The number of characters before it. -/
  index : Nat
  /-- The number of line breaks before it. -/
  line : Nat
  /-- The number of characters before it on its line. -/
  column : Nat
deriving Repr

namespace Cursor

/-- The start of a text. -/
def start (cs : List Char) : Cursor := ⟨cs, 0, 0, 0⟩

/-- Is that the character at the place? -/
def at? (c : Cursor) (x : Char) : Bool := c.rest.head? == some x

/-- Do these characters stand at the place? -/
def sees (c : Cursor) (expected : List Char) : Bool :=
  expected.isPrefixOf c.rest

/-- Is the `n`-th character from the place a space, a tab or a line break, or is there none? -/
def gapAfter (c : Cursor) (n : Nat) : Bool :=
  match c.rest.drop n with
  | [] => true
  | x :: _ => isSpaceOrTab x || isBreak x

/-- Is the character at the place a space or a tab? -/
def atSpaceOrTab (c : Cursor) : Bool :=
  match c.rest with
  | [] => false
  | x :: _ => isSpaceOrTab x

/-- Is the character at the place a line break? -/
def atBreak (c : Cursor) : Bool :=
  match c.rest with
  | [] => false
  | x :: _ => isBreak x

/-- The place after `n` characters that are no line breaks. -/
def advance (c : Cursor) (n : Nat) : Cursor :=
  ⟨c.rest.drop n, c.index + n, c.line, c.column + n⟩

/-- The place after the characters, none of them a line break, that satisfy a test. -/
def skipWhile (c : Cursor) (p : Char → Bool) : Cursor :=
  c.advance (c.rest.takeWhile p).length

/-- The place after the characters on the line. -/
def skipLine (c : Cursor) : Cursor :=
  c.skipWhile fun x => !isBreak x

/-- The line break at the place, as it counts in a text, and the place after it.  The breaks of
ASCII and the next-line control count as line feeds. -/
def takeBreak (c : Cursor) : List Char × Cursor :=
  match c.rest with
  | '\r' :: '\n' :: rest => (['\n'], ⟨rest, c.index + 2, c.line + 1, 0⟩)
  | x :: rest =>
    if isBreak x then
      (if x = '\u2028' ∨ x = '\u2029' then [x] else ['\n'],
        ⟨rest, c.index + 1, c.line + 1, 0⟩)
    else ([], c)
  | [] => ([], c)

/-- The place after the line break at the place. -/
def skipBreak (c : Cursor) : Cursor := c.takeBreak.2

/-- Does a line that separates documents start here? -/
def atDocumentMark (c : Cursor) : Bool :=
  c.column == 0 && (c.sees ['-', '-', '-'] || c.sees ['.', '.', '.']) && c.gapAfter 3

end Cursor

end ClassGen.Document.Yaml
