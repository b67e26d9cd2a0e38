/-
# The layout of a source text

The source text of a class is laid out in pieces: code, and comments that carry the descriptions
of the model.  Without the comments it is the code alone.  In a comment the two characters that
would end it are kept apart by a backslash.
-/
import ClassGen.Model.Class

namespace ClassGen

open Text

/-- A piece of a source text. -/
inductive Piece where
  /-- Code. -/
  | code (text : String)
  /-- A comment on lines of its own: what stands before it on its first line, and what stands
  between the marks that open and close it. -/
  | comment (indent body : String)
deriving DecidableEq, Repr

namespace Piece

/-- The piece as a text. -/
def render : Piece → String
  | code text => text
  | comment indent body => indent ++ "/**" ++ body ++ "*/\n"

/-- Is the piece code? -/
def isCode : Piece → Bool
  | code _ => true
  | comment _ _ => false

/-- The pieces one after the other. -/
def renderAll (pieces : List Piece) : String :=
  String.join (pieces.map render)

/-- The characters with a backslash put between every asterisk and a slash after it. -/
def escapeChars : List Char → List Char
  | '*' :: '/' :: cs => '*' :: '\\' :: '/' :: escapeChars cs
  | c :: cs => c :: escapeChars cs
  | [] => []

/-- The text as it stands in a comment. -/
def escape (s : String) : String :=
  String.ofList (escapeChars s.toList)

/-- A comment above a class: every line of the text on a line of its own.  A text without lines
gets none. -/
def ofClassDescription : Option String → List Piece
  | none => []
  | some text =>
    match lines text with
    | [] => []
    | ls => [comment "" ("\n" ++ String.join (ls.map fun l => " * " ++ escape l ++ "\n") ++ " ")]

/-- A comment above a field.  An empty text gets none. -/
def ofFieldDescription : Option String → List Piece
  | none => []
  | some text => if text = "" then [] else [comment "    " (" " ++ escape text ++ " ")]

end Piece

/-- The pieces of a field. -/
def Field.pieces (f : Field) : List Piece :=
  .code "\n" :: Piece.ofFieldDescription f.description
    ++ [.code ("    protected " ++ f.type.render ++ " " ++ f.name ++ ";\n")]

/-- The code of a method. -/
def Method.code (m : Method) : String :=
  "\n" ++ String.join (m.annotations.map fun a => "    @" ++ a.simple ++ "\n")
    ++ "    " ++ m.renderHead ++ " \x7b\n"
    ++ String.join (m.body.map fun s => "        " ++ s.render ++ "\n")
    ++ "    \x7d\n"

namespace ClassDef

/-- What stands before the class and its comment: its package and its imports. -/
def preamble (package : String) (imports : List String) : String :=
  (if package = "" then "" else "package " ++ package ++ ";\n\n")
    ++ (if imports.isEmpty then ""
        else String.join (imports.map fun i => "import " ++ i ++ ";\n") ++ "\n")

/-- The pieces of a class with these imports. -/
def pieces (imports : List String) (c : ClassDef) : List Piece :=
  .code (preamble c.name.package imports) :: Piece.ofClassDescription c.description
    ++ [.code ("public class " ++ c.name.simple ++ " \x7b\n")]
    ++ c.fields.flatMap Field.pieces
    ++ c.methods.map (fun m => .code m.code)
    ++ [.code "\x7d\n"]

end ClassDef

end ClassGen
