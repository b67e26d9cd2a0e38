/-
# The plugin for derived methods

The plugin attaches the derived methods to every class.  A token that starts with
`-Xcommons-lang:ToStringStyle=` selects the style, and the last such token counts; a refused
selection leaves the style as it was.
-/
import ClassGen.Derived.Methods
import ClassGen.Pipeline

namespace ClassGen

open Text

namespace Style

/-- The option of the plugin. -/
def optionName : String := "Xcommons-lang"

/-- What a token that selects a style starts with. -/
def tokenStart : String := "-Xcommons-lang:ToStringStyle="

/-- What follows the characters `start` in a text that starts with them. -/
def dropStart? : List Char → List Char → Option (List Char)
  | [], cs => some cs
  | _ :: _, [] => none
  | a :: start, c :: cs => if a = c then dropStart? start cs else none

/-- The text after the start of a token that selects a style; blanks around the token do not
count. -/
def selection? (token : String) : Option String :=
  (dropStart? tokenStart.toList (trimChars token.toList)).map String.ofList

/-- The line of the usage text for a constant after the first one. -/
def usageLine (s : BuiltinStyle) : String := "\t| " ++ s.name ++ "\n"

/-- The usage text of the plugin. -/
def usage : String :=
  "  -" ++ optionName ++ "        :  generate toString(), hashCode() and equals() " ++
    "for generated code using commons-lang\n" ++
    " [" ++ tokenStart ++ BuiltinStyle.multiLine.name ++ "\n" ++
    String.join (BuiltinStyle.all.tail.map usageLine) ++
    "\t| <Fully qualified class name of a ToStringStyle subtype>]\n"

/-- What the plugin in a style claims of the tokens from position `i` on, and its style after
that. -/
def claim (catalog : StyleCatalog) (style : Style) (cp : Classpath) (args : List String)
    (i : Nat) : Except ConfigurationError Nat × Style :=
  match args[i]?.bind selection? with
  | none => (.ok 0, style)
  | some text =>
    match resolve catalog cp text with
    | .ok selected => (.ok 1, selected)
    | .error refusal => (.error refusal.toError, style)

/-- The plugin in a style. -/
def plugin (catalog : StyleCatalog) (style : Style) : Plugin where
  State := Style
  state := style
  optionName := fun _ => optionName
  usage := fun _ => usage
  types := [baseDecl]
  claim := claim catalog
  run := fun style _ model => (true, model.mapClasses (·.attachDerived style), style)

end Style

end ClassGen
