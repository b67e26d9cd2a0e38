/-
# Plain scalars

A scalar without quotes.  It ends before a colon and a gap, before a comment, before a line that
is indented too little, and in flow context before a comma or a bracket.
-/
import ClassGen.Document.Yaml.Quoted

namespace ClassGen.Document.Yaml

/-- Does the character end a plain scalar in flow context? -/
def isFlowIndicator (c : Char) : Bool :=
  c == ',' || c == '[' || c == ']' || c == '\x7b' || c == '\x7d'

/-- Does a colon stand at the place that may not be part of a plain scalar in flow context? -/
def badColon (c : Cursor) : Bool :=
  match c.rest with
  | ':' :: x :: _ => isFlowIndicator x || x == '?'
  | _ => false

/-- Does the plain scalar end at the place, within a line? -/
def plainEnds (flow : Bool) (c : Cursor) : Bool :=
  c.gapAfter 0 || (c.at? ':' && c.gapAfter 1) ||
    (flow && match c.rest with
      | x :: _ => isFlowIndicator x
      | [] => false)

/-- Read a plain scalar up to a gap or its end: its characters, last one first, and the place
after them.  The gap before them is added with the first of them. -/
def plainRun (flow : Bool) : Nat → Gap → List Char → Cursor → Option (List Char × Cursor)
  | 0, _, _, _ => none
  | fuel + 1, gap, text, c =>
    if !c.gapAfter 0 && flow && badColon c then none
    else if plainEnds flow c then some (text, c)
    else
      match c.rest with
      | [] => some (text, c)
      | x :: _ => plainRun flow fuel Gap.none (x :: (gap.fold.reverse ++ text)) (c.advance 1)

/-- The gap after a part of a plain scalar, and the place after it.  A tab may not stand where the
indentation of a line would be. -/
def plainGap (level : Nat) : Nat → Gap → Cursor → Option (Gap × Cursor)
  | 0, _, _ => none
  | fuel + 1, g, c =>
    if c.atSpaceOrTab || c.atBreak then
      if g.overLine && decide (c.column < level) && c.at? '\t' then none
      else
        let (g, c) := g.extend c
        plainGap level fuel g c
    else some (g, c)

/-- A plain scalar that has been read. -/
structure PlainScalar where
  /-- Its text. -/
  text : List Char
  /-- The place after it and after the gap behind it. -/
  cursor : Cursor
  /-- Does that gap reach over the end of a line? -/
  overLine : Bool

/-- Read on in a plain scalar after a gap. -/
def plainFrom (flow : Bool) (level : Nat) : Nat → Gap → List Char → Cursor → Option PlainScalar
  | 0, _, _, _ => none
  | fuel + 1, gap, text, c =>
    if c.atDocumentMark || c.at? '#' then some ⟨text.reverse, c, gap.overLine⟩
    else
      match plainRun flow (c.rest.length + 1) gap text c with
      | none => none
      | some (text', next) =>
        let gap := if next.index = c.index then gap else Gap.none
        if next.atSpaceOrTab || next.atBreak then
          match plainGap level (next.rest.length + 1) gap next with
          | none => none
          | some (gap, next) =>
            if !flow && decide (next.column < level) then
              some ⟨text'.reverse, next, gap.overLine⟩
            else plainFrom flow level fuel gap text' next
        else some ⟨text'.reverse, next, gap.overLine⟩

/-- Read the plain scalar at the place, whose lines in block context are indented by at least
`level`. -/
def plain? (flow : Bool) (level : Nat) (c : Cursor) : Option PlainScalar :=
  plainFrom flow level (c.rest.length + 1) Gap.none [] c

end ClassGen.Document.Yaml
