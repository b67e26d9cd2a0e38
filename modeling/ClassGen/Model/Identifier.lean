/-
# Identifiers and reserved words

An identifier starts with a letter, `_` or `$` and goes on with letters, digits, `_` and `$`.
Being an identifier and being a reserved word are independent tests: `class` is both.
-/
import ClassGen.Text.Numeric

namespace ClassGen

open Text

/-- May the character start an identifier? -/
def isIdentifierStart (c : Char) : Bool :=
  isAlphabetic c || c == '_' || c == '$'

/-- May the character follow the first one of an identifier? -/
def isIdentifierPart (c : Char) : Bool :=
  isAlphanumeric c || c == '_' || c == '$'

/-- Are the characters those of an identifier? -/
def isIdentifierChars : List Char → Bool
  | [] => false
  | c :: cs => isIdentifierStart c && cs.all isIdentifierPart

/-- Is the text an identifier? -/
def isIdentifier (s : String) : Bool :=
  isIdentifierChars s.toList

/-- The reserved words of the generated language, with its literals `true`, `false` and
`null`. -/
def reservedWords : List String := [
  "abstract", "assert", "boolean", "break", "byte", "case", "catch", "char", "class", "const",
  "continue", "default", "do", "double", "else", "enum", "extends", "false", "final", "finally",
  "float", "for", "goto", "if", "implements", "import", "instanceof", "int", "interface", "long",
  "native", "new", "null", "package", "private", "protected", "public", "return", "short",
  "static", "strictfp", "super", "switch", "synchronized", "this", "throw", "throws",
  "transient", "true", "try", "void", "volatile", "while"]

/-- Is the text a reserved word? -/
def isReserved (s : String) : Bool :=
  reservedWords.contains s

end ClassGen
