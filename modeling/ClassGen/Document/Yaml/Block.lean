/-
# Block scalars

A scalar on indented lines after `|` or `>`.  A literal one keeps its line breaks; in a folded
one a line break between two lines that start with no blank counts as a space.  The header may
tell the indentation, and which of the line breaks at the end count.
-/
import ClassGen.Document.Yaml.Cursor

namespace ClassGen.Document.Yaml

/-- Which line breaks at the end of a block scalar count. -/
inductive Chomp where
  /-- None. -/
  | strip
  /-- The first one. -/
  | clip
  /-- All of them. -/
  | keep
deriving DecidableEq, Repr

/-- What the header of a block scalar tells. -/
structure BlockHeader where
  /-- Which line breaks at the end count. -/
  chomp : Chomp
  /-- By how much the lines are indented further than the block around them; zero if the first
  of them tells. -/
  increment : Nat

/-- The sign that tells which line breaks at the end count. -/
def chompOf? (c : Char) : Option Chomp :=
  if c = '+' then some .keep else if c = '-' then some .strip else none

/-- The indentation that a digit tells; zero tells none. -/
def incrementOf? (c : Char) : Option Nat :=
  if c.isDigit ∧ c ≠ '0' then some (c.toNat - '0'.toNat) else none

/-- The header after the indicator, and the place after it.  Its two parts may come in either
order. -/
def blockHeader? (c : Cursor) : Option (BlockHeader × Cursor) :=
  match c.rest with
  | [] => some (⟨.clip, 0⟩, c)
  | x :: rest =>
    match chompOf? x with
    | some chomp =>
      match rest with
      | y :: _ =>
        if y.isDigit then (incrementOf? y).map fun n => (⟨chomp, n⟩, c.advance 2)
        else some (⟨chomp, 0⟩, c.advance 1)
      | [] => some (⟨chomp, 0⟩, c.advance 1)
    | none =>
      if x.isDigit then
        match incrementOf? x with
        | none => none
        | some n =>
          match rest.head?.bind chompOf? with
          | some chomp => some (⟨chomp, n⟩, c.advance 2)
          | none => some (⟨.clip, n⟩, c.advance 1)
      else some (⟨.clip, 0⟩, c)

/-- The place after the rest of the header's line, which holds at most a comment. -/
def afterHeader? (c : Cursor) : Option Cursor :=
  let c := c.skipWhile isSpaceOrTab
  let c := if c.at? '#' then c.skipLine else c
  if c.rest.isEmpty then some c else if c.atBreak then some c.skipBreak else none

/-- Empty lines and indentation before a line of a block scalar. -/
structure BlockLead where
  /-- The line breaks of the empty lines. -/
  breaks : List Char
  /-- The largest column that an empty line or the indentation reaches. -/
  widest : Nat
  /-- The place after them. -/
  cursor : Cursor

/-- Read empty lines and indentation, up to the column `indent`, or as far as it goes if that is
zero.  A tab may not stand where the indentation would be. -/
def blockLead (indent : Nat) : Nat → BlockLead → Option BlockLead
  | 0, _ => none
  | fuel + 1, lead =>
    let c := lead.cursor
    let spaces := (c.rest.takeWhile (· == ' ')).length
    let width := if indent = 0 then spaces else min spaces (indent - c.column)
    let c := c.advance width
    let widest := max lead.widest c.column
    if (indent = 0 || decide (c.column < indent)) && c.at? '\t' then none
    else if c.atBreak then
      let (text, next) := c.takeBreak
      blockLead indent fuel ⟨lead.breaks ++ text, widest, next⟩
    else some ⟨lead.breaks, widest, c⟩

/-- The state of reading the lines of a block scalar. -/
structure BlockText where
  /-- The text so far, last character first. -/
  text : List Char
  /-- The break of the last line. -/
  lastBreak : List Char
  /-- The breaks of the empty lines after it. -/
  emptyBreaks : List Char
  /-- Did the last line start with a blank? -/
  blankStart : Bool
  /-- The place after all that. -/
  cursor : Cursor

/-- What stands between the lines read so far and the next one. -/
def BlockText.between (folded : Bool) (b : BlockText) : List Char :=
  if folded && b.lastBreak.head? == some '\n' && !b.blankStart && !b.cursor.atSpaceOrTab then
    if b.emptyBreaks.isEmpty then [' '] else b.emptyBreaks
  else b.lastBreak ++ b.emptyBreaks

/-- Read the lines of a block scalar that are indented by `indent`. -/
def blockLines (folded : Bool) (indent : Nat) : Nat → BlockText → Option BlockText
  | 0, _ => none
  | fuel + 1, b =>
    let c := b.cursor
    if c.column = indent ∧ ¬ c.rest.isEmpty then
      let line := c.rest.takeWhile fun x => !isBreak x
      let text := line.reverse ++ ((b.between folded).reverse ++ b.text)
      let (lastBreak, next) := (c.advance line.length).takeBreak
      match blockLead indent (next.rest.length + 1) ⟨[], 0, next⟩ with
      | none => none
      | some lead =>
        blockLines folded indent fuel ⟨text, lastBreak, lead.breaks, c.atSpaceOrTab, lead.cursor⟩
    else some b

/-- Read the block scalar at the place, in a block whose content is indented by at least `level`:
its text, and the place after it. -/
def block? (folded : Bool) (level : Nat) (c : Cursor) : Option (List Char × Cursor) :=
  match blockHeader? (c.advance 1) with
  | none => none
  | some (header, c) =>
    match afterHeader? c with
    | none => none
    | some c =>
      let told := if header.increment = 0 then 0 else level - 1 + header.increment
      match blockLead told (c.rest.length + 1) ⟨[], 0, c⟩ with
      | none => none
      | some lead =>
        let indent := if told = 0 then max lead.widest (max level 1) else told
        match blockLines folded indent (lead.cursor.rest.length + 1)
            ⟨[], [], lead.breaks, false, lead.cursor⟩ with
        | none => none
        | some b =>
          let tail := match header.chomp with
            | .strip => []
            | .clip => b.lastBreak
            | .keep => b.lastBreak ++ b.emptyBreaks
          some (b.text.reverse ++ tail, b.cursor)

end ClassGen.Document.Yaml
