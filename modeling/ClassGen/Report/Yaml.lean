/-
# Outlines as YAML

Lists and records are written as blocks, a list in a record without indentation of its own; an
empty one is written as a pair of brackets.
-/
import ClassGen.Report.Outline
import ClassGen.Report.YamlText

namespace ClassGen.Outline

/-- The start of a line, unless the first member of a block goes on the line of its block. -/
def yamlPad (indent : Nat) (inline : Bool) : String :=
  if inline then "" else String.ofList (YamlText.spaces indent)

mutual

/-- The entries of a record, each on a line of its own; the first one goes on the line where the
record starts, if it is `inline`. -/
def yamlEntries (indent : Nat) (inline : Bool) : List (String × Outline) → String
  | [] => ""
  | (name, value) :: entries =>
    yamlPad indent inline ++ name ++ ":" ++ yamlEntryValue indent value
      ++ yamlEntries indent false entries

/-- The value of an entry, from the colon on. -/
def yamlEntryValue (indent : Nat) : Outline → String
  | text s => " " ++ YamlText.write (indent + 2) s
  | list [] => " []\n"
  | list (item :: items) => "\n" ++ yamlItems indent false (item :: items)
  | record [] => " \x7b\x7d\n"
  | record (entry :: entries) => "\n" ++ yamlEntries (indent + 2) false (entry :: entries)

/-- The items of a list, each on a line of its own; the first one goes on the line where the list
starts, if it is `inline`. -/
def yamlItems (indent : Nat) (inline : Bool) : List Outline → String
  | [] => ""
  | item :: items =>
    yamlPad indent inline ++ "- " ++ yamlItem indent item ++ yamlItems indent false items

/-- An item, from the blank after its dash on. -/
def yamlItem (indent : Nat) : Outline → String
  | text s => YamlText.write (indent + 2) s
  | list [] => "[]\n"
  | list (item :: items) => yamlItems (indent + 2) true (item :: items)
  | record [] => "\x7b\x7d\n"
  | record (entry :: entries) => yamlEntries (indent + 2) true (entry :: entries)

end

/-- The outline as YAML. -/
def toYaml : Outline → String
  | record (entry :: entries) => yamlEntries 0 false (entry :: entries)
  | o => yamlItem 0 o

end ClassGen.Outline
