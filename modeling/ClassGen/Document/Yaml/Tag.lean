/-
# Tags, anchors and directives

The parts of a YAML text that start with `!`, `&`, `*` and `%`.
-/
import ClassGen.Document.Yaml.Quoted
import ClassGen.Document.Yaml.Token

namespace ClassGen.Document.Yaml

/-- Read the name at the place, and the place after it. -/
def nameAt (c : Cursor) : List Char × Cursor :=
  let name := c.rest.takeWhile isNameChar
  (name, c.advance name.length)

/-- May what stands at the place follow the name of an anchor? -/
def endsAnchor (c : Cursor) : Bool :=
  c.gapAfter 0 ||
    match c.rest with
    | x :: _ => ['?', ':', ',', ']', '\x7d', '%', '@', '\x60'].contains x
    | [] => true

/-- Read the name of the anchor or alias whose sign stands at the place. -/
def anchorName? (c : Cursor) : Option (List Char × Cursor) :=
  let (name, next) := nameAt (c.advance 1)
  if name.isEmpty || !endsAnchor next then none else some (name, next)

/-- May the character be part of a tag?  Commas and square brackets may only in one that is
written out between angle brackets or stands in a directive. -/
def isTagChar (verbatim : Bool) (c : Char) : Bool :=
  isNameChar c || [';', '/', '?', ':', '@', '&', '=', '+', '$', '.', '%', '!', '~', '*', '\'',
    '(', ')'].contains c || (verbatim && [',', '[', ']'].contains c)

/-- How many bytes a character has whose first byte, written by its number, is `n`. -/
def encodedWidth? (n : Nat) : Option Nat :=
  if n < 0x80 then some 1
  else if n < 0xC0 then none
  else if n < 0xE0 then some 2
  else if n < 0xF0 then some 3
  else if n < 0xF8 then some 4
  else none

/-- The byte that is written at the start of the characters as a percent sign and two digits. -/
def escapedByte? : List Char → Option Nat
  | '%' :: cs => hexNumber? 2 0 cs
  | _ => none

/-- The value of `count` further bytes of a character, written by their numbers. -/
def furtherBytes? : Nat → Nat → List Char → Option Nat
  | 0, value, _ => some value
  | count + 1, value, cs =>
    match escapedByte? cs with
    | none => none
    | some n =>
      if n / 0x40 = 2 then furtherBytes? count (0x40 * value + n % 0x40) (cs.drop 3) else none

/-- The least code point whose encoding has so many bytes. -/
def leastOfWidth : Nat → Nat
  | 1 => 0
  | 2 => 0x80
  | 3 => 0x800
  | _ => 0x10000

/-- The character whose bytes are written by their numbers at the start of the characters, and
how many of them it takes.  Bytes that are well formed but no character count as the replacement
character. -/
def escapedTagChar? (cs : List Char) : Option (Char × Nat) :=
  match escapedByte? cs with
  | none => none
  | some n =>
    match encodedWidth? n with
    | none => none
    | some width =>
      let lead := if width = 1 then n else n % (0x80 >>> width)
      (furtherBytes? (width - 1) lead (cs.drop 3)).map fun value =>
        let c := if leastOfWidth width ≤ value then charOf? value else none
        (c.getD '\ufffd', 3 * width)

/-- Read as many characters of a tag as there are, after those of `text`, last one first. -/
def tagChars? (verbatim : Bool) : Nat → List Char → Cursor → Option (List Char × Cursor)
  | 0, _, _ => none
  | fuel + 1, text, c =>
    match c.rest with
    | [] => some (text.reverse, c)
    | x :: _ =>
      if !isTagChar verbatim x then some (text.reverse, c)
      else if x = '%' then
        match escapedTagChar? c.rest with
        | none => none
        | some (y, n) => tagChars? verbatim fuel (y :: text) (c.advance n)
      else tagChars? verbatim fuel (x :: text) (c.advance 1)

/-- Read the characters of a tag. -/
def tagText? (verbatim : Bool) (c : Cursor) : Option (List Char × Cursor) :=
  tagChars? verbatim (c.rest.length + 1) [] c

/-- Read the handle at the place: an exclamation mark, a name, and another mark if there is
one. -/
def handleAt? (c : Cursor) : Option (List Char × Cursor) :=
  if c.at? '!' then
    let (name, next) := nameAt (c.advance 1)
    if next.at? '!' then some ('!' :: name ++ ['!'], next.advance 1)
    else some ('!' :: name, next)
  else none

/-- Is the handle one that stands for something, between two exclamation marks? -/
def isFullHandle (handle : List Char) : Bool :=
  decide (2 ≤ handle.length) && handle.getLast? == some '!'

/-- Read the tag at the place: its handle and its suffix. -/
def tagParts? (c : Cursor) : Option (List Char × List Char × Cursor) :=
  if c.sees ['!', '<'] then
    match tagText? true (c.advance 2) with
    | none => none
    | some (suffix, next) =>
      if suffix.isEmpty || !next.at? '>' then none else some ([], suffix, next.advance 1)
  else
    match handleAt? c with
    | none => none
    | some (handle, next) =>
      match tagText? false next with
      | none => none
      | some (suffix, next) =>
        if isFullHandle handle then
          if suffix.isEmpty then none else some (handle, suffix, next)
        else if (handle.drop 1 ++ suffix).isEmpty then some ([], ['!'], next)
        else some (['!'], handle.drop 1 ++ suffix, next)

/-- Read the tag at the place.  A gap has to follow it, or in flow context a comma. -/
def tag? (flow : Bool) (c : Cursor) : Option (Token × Cursor) :=
  match tagParts? c with
  | none => none
  | some (handle, suffix, next) =>
    if next.gapAfter 0 || (flow && next.at? ',') then some (.tag handle suffix, next) else none

/-- Read the number at the place.  It has at most nine digits. -/
def versionNumber? (c : Cursor) : Option (Nat × Cursor) :=
  let digits := c.rest.takeWhile Char.isDigit
  if digits.isEmpty || decide (9 < digits.length) then none
  else some (digits.foldl (fun n d => 10 * n + (d.toNat - '0'.toNat)) 0, c.advance digits.length)

/-- Read what follows `%YAML`. -/
def versionDirective? (c : Cursor) : Option (Token × Cursor) :=
  match versionNumber? (c.skipWhile isSpaceOrTab) with
  | none => none
  | some (major, c) =>
    if c.at? '.' then
      (versionNumber? (c.advance 1)).map fun (minor, c) => (.versionDirective major minor, c)
    else none

/-- Read what follows `%TAG`. -/
def tagDirective? (c : Cursor) : Option (Token × Cursor) :=
  match handleAt? (c.skipWhile isSpaceOrTab) with
  | none => none
  | some (handle, c) =>
    if (isFullHandle handle || handle == ['!']) && c.atSpaceOrTab then
      match tagText? true (c.skipWhile isSpaceOrTab) with
      | none => none
      | some (expansion, c) =>
        if expansion.isEmpty || !c.gapAfter 0 then none
        else some (.tagDirective handle expansion, c)
    else none

/-- Read the directive at the place and the rest of its line, which holds at most a comment. -/
def directive? (c : Cursor) : Option (Token × Cursor) :=
  let (name, next) := nameAt (c.advance 1)
  let read :=
    if !next.gapAfter 0 then none
    else if name = ['Y', 'A', 'M', 'L'] then versionDirective? next
    else if name = ['T', 'A', 'G'] then tagDirective? next
    else none
  match read with
  | none => none
  | some (token, c) =>
    let c := c.skipWhile isSpaceOrTab
    let c := if c.at? '#' then c.skipLine else c
    if c.rest.isEmpty then some (token, c)
    else if c.atBreak then some (token, c.skipBreak)
    else none

end ClassGen.Document.Yaml
