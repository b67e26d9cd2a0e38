/-
# Outlines as JSON

Every member stands on a line of its own, indented by two spaces for each level around it; an
empty list or record has no line of its own.
-/
import ClassGen.Report.Outline

namespace ClassGen.Outline

/-- The digit of a value below sixteen. -/
def hexDigit (n : Nat) : Char :=
  if n < 10 then Char.ofNat ('0'.toNat + n) else Char.ofNat ('a'.toNat + (n - 10))

/-- A character as it stands in a JSON string. -/
def jsonChar (c : Char) : List Char :=
  if c = '"' then ['\\', '"']
  else if c = '\\' then ['\\', '\\']
  else if c = '\x08' then ['\\', 'b']
  else if c = '\x0c' then ['\\', 'f']
  else if c = '\n' then ['\\', 'n']
  else if c = '\r' then ['\\', 'r']
  else if c = '\t' then ['\\', 't']
  else if c.toNat < 0x20 then
    ['\\', 'u', '0', '0', hexDigit (c.toNat / 16), hexDigit (c.toNat % 16)]
  else [c]

/-- A text as a JSON string. -/
def jsonString (s : String) : String :=
  "\"" ++ String.ofList (s.toList.flatMap jsonChar) ++ "\""

/-- The start of a line on a level. -/
def jsonLine (level : Nat) : String :=
  "\n" ++ String.ofList (List.replicate (2 * level) ' ')

mutual

/-- The outline as JSON, on a level of indentation. -/
def toJsonAt (level : Nat) : Outline → String
  | text s => jsonString s
  | list [] => "[]"
  | list (item :: items) =>
    "[" ++ jsonLine (level + 1) ++ toJsonAt (level + 1) item ++ jsonItems (level + 1) items
      ++ jsonLine level ++ "]"
  | record [] => "\x7b\x7d"
  | record ((name, value) :: entries) =>
    "\x7b" ++ jsonLine (level + 1) ++ jsonString name ++ ": " ++ toJsonAt (level + 1) value
      ++ jsonEntries (level + 1) entries ++ jsonLine level ++ "\x7d"

/-- The items after the first one. -/
def jsonItems (level : Nat) : List Outline → String
  | [] => ""
  | item :: items => "," ++ jsonLine level ++ toJsonAt level item ++ jsonItems level items

/-- The entries after the first one. -/
def jsonEntries (level : Nat) : List (String × Outline) → String
  | [] => ""
  | (name, value) :: entries =>
    "," ++ jsonLine level ++ jsonString name ++ ": " ++ toJsonAt level value
      ++ jsonEntries level entries

end

/-- The outline as JSON. -/
def toJson (o : Outline) : String := toJsonAt 0 o ++ "\n"

end ClassGen.Outline
