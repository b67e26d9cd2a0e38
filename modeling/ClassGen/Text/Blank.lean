/-
# Blank characters

The property *White_Space* of Unicode, and the trimming of a text at both ends.
-/
import ClassGen.Text.Run

namespace ClassGen.Text

/-- The blank code points beyond ASCII. -/
def blankRuns : List Run := [
  ⟨0x85, 0x85, 1⟩, ⟨0xA0, 0xA0, 1⟩, ⟨0x1680, 0x1680, 1⟩, ⟨0x2000, 0x200A, 1⟩,
  ⟨0x2028, 0x2029, 1⟩, ⟨0x202F, 0x202F, 1⟩, ⟨0x205F, 0x205F, 1⟩, ⟨0x3000, 0x3000, 1⟩]

/-- Is the character blank?  In ASCII these are the space and the controls from tab to carriage
return. -/
def isBlank (c : Char) : Bool :=
  if c.toNat < 0x80 then c == ' ' || (decide (0x09 ≤ c.toNat) && decide (c.toNat ≤ 0x0D))
  else Run.covers blankRuns c.toNat

/-- The text without the blanks at its two ends. -/
def trimChars (cs : List Char) : List Char :=
  ((cs.dropWhile isBlank).reverse.dropWhile isBlank).reverse

/-- The text without the blanks at its two ends. -/
def trim (s : String) : String :=
  String.ofList (trimChars s.toList)

end ClassGen.Text
