/-
# Quoted scalars

A scalar between single or double quotes.  A line break in it counts as a space, further line
breaks count as they stand, and blanks around line breaks do not count.  Between double quotes a
backslash escapes a character, a code point or a line break.
-/
import ClassGen.Document.Yaml.Cursor

namespace ClassGen.Document.Yaml

/-- Blanks and line breaks that have been read and not yet been added to a text. -/
structure Gap where
  /-- The blanks, as long as there is no line break. -/
  blanks : List Char
  /-- The first line break. -/
  first : List Char
  /-- The further line breaks. -/
  further : List Char
  /-- Does the gap reach over the end of a line? -/
  overLine : Bool

namespace Gap

/-- Nothing. -/
def none : Gap := ⟨[], [], [], false⟩

/-- What the gap adds to a text. -/
def fold (g : Gap) : List Char :=
  if g.overLine then
    if g.first.head? = some '\n' then
      if g.further.isEmpty then [' '] else g.further
    else g.first ++ g.further
  else g.blanks

/-- The gap with the blank or line break at the place, and the place after it. -/
def extend (g : Gap) (c : Cursor) : Gap × Cursor :=
  if c.atBreak then
    let (text, next) := c.takeBreak
    if g.overLine then ({ g with further := g.further ++ text }, next)
    else ({ g with blanks := [], first := text, overLine := true }, next)
  else
    let text := c.rest.take 1
    (if g.overLine then g else { g with blanks := g.blanks ++ text }, c.advance 1)

end Gap

/-- The value of a hexadecimal digit. -/
def hexDigit? (c : Char) : Option Nat :=
  if c.isDigit then some (c.toNat - '0'.toNat)
  else if 'a' ≤ c ∧ c ≤ 'f' then some (c.toNat - 'a'.toNat + 10)
  else if 'A' ≤ c ∧ c ≤ 'F' then some (c.toNat - 'A'.toNat + 10)
  else none

/-- The value of `count` hexadecimal digits at the start of the characters. -/
def hexNumber? : Nat → Nat → List Char → Option Nat
  | 0, value, _ => some value
  | count + 1, value, c :: cs =>
    match hexDigit? c with
    | some digit => hexNumber? count (16 * value + digit) cs
    | Option.none => Option.none
  | _ + 1, _, [] => Option.none

/-- The character of an escape of one letter. -/
def escapedChar? : Char → Option Char
  | '0' => some '\x00'
  | 'a' => some '\x07'
  | 'b' => some '\x08'
  | 't' => some '\t'
  | '\t' => some '\t'
  | 'n' => some '\n'
  | 'v' => some '\x0b'
  | 'f' => some '\x0c'
  | 'r' => some '\r'
  | 'e' => some '\x1b'
  | ' ' => some ' '
  | '"' => some '"'
  | '/' => some '/'
  | '\\' => some '\\'
  | 'N' => some '\u0085'
  | '_' => some '\u00a0'
  | 'L' => some '\u2028'
  | 'P' => some '\u2029'
  | _ => Option.none

/-- How many digits give the code point after such a letter. -/
def escapeDigits? : Char → Option Nat
  | 'x' => some 2
  | 'u' => some 4
  | 'U' => some 8
  | _ => Option.none

/-- The character with that code point. -/
def charOf? (n : Nat) : Option Char :=
  if n ≤ 0x10FFFF ∧ ¬ (0xD800 ≤ n ∧ n ≤ 0xDFFF) then some (Char.ofNat n) else Option.none

/-- The character of the escape whose letter stands at the start of the characters, and how many
of them belong to it. -/
def escape? : List Char → Option (Char × Nat)
  | [] => Option.none
  | letter :: cs =>
    match escapedChar? letter with
    | some c => some (c, 1)
    | Option.none =>
      match escapeDigits? letter with
      | Option.none => Option.none
      | some count => ((hexNumber? count 0 cs).bind charOf?).map fun c => (c, count + 1)

/-- Where the reading of a quoted scalar stands within a line. -/
structure QuotedRun where
  /-- The characters read, last one first. -/
  text : List Char
  /-- The place after them. -/
  cursor : Cursor
  /-- Was the end of the line escaped? -/
  escapedBreak : Bool

/-- Read a quoted scalar up to a blank, a line break or the closing quote. -/
def quotedRun (double : Bool) : Nat → List Char → Cursor → Option QuotedRun
  | 0, _, _ => Option.none
  | fuel + 1, text, c =>
    match c.rest with
    | [] => some ⟨text, c, false⟩
    | x :: rest =>
      if isSpaceOrTab x || isBreak x then some ⟨text, c, false⟩
      else if double then
        if x = '"' then some ⟨text, c, false⟩
        else if x = '\\' then
          if (c.advance 1).atBreak then some ⟨text, (c.advance 1).skipBreak, true⟩
          else
            match escape? rest with
            | Option.none => Option.none
            | some (y, n) => quotedRun double fuel (y :: text) (c.advance (n + 1))
        else quotedRun double fuel (x :: text) (c.advance 1)
      else if x = '\'' then
        if rest.head? = some '\'' then quotedRun double fuel ('\'' :: text) (c.advance 2)
        else some ⟨text, c, false⟩
      else quotedRun double fuel (x :: text) (c.advance 1)

/-- The gap at a place, and the place after it. -/
def gapAt : Nat → Gap → Cursor → Gap × Cursor
  | 0, g, c => (g, c)
  | fuel + 1, g, c =>
    if c.atSpaceOrTab || c.atBreak then
      let (g, c) := g.extend c
      gapAt fuel g c
    else (g, c)

/-- Read a quoted scalar after its opening quote: its text, and the place after the closing
quote. -/
def quotedFrom (double : Bool) : Nat → List Char → Cursor → Option (List Char × Cursor)
  | 0, _, _ => Option.none
  | fuel + 1, text, c =>
    if c.atDocumentMark || c.rest.isEmpty then Option.none
    else
      match quotedRun double (c.rest.length + 1) text c with
      | Option.none => Option.none
      | some run =>
        if run.cursor.at? (if double then '"' else '\'') then
          some (run.text.reverse, run.cursor.advance 1)
        else
          let (gap, next) := gapAt (run.cursor.rest.length + 1)
            { Gap.none with overLine := run.escapedBreak } run.cursor
          quotedFrom double fuel (gap.fold.reverse ++ run.text) next

/-- Read the quoted scalar at the place. -/
def quoted? (double : Bool) (c : Cursor) : Option (List Char × Cursor) :=
  quotedFrom double (c.rest.length + 1) [] (c.advance 1)

end ClassGen.Document.Yaml
