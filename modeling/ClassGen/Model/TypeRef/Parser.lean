/-
# Reading written types

A written type is a word, possibly followed by type arguments between angle brackets and by
pairs of square brackets; blanks may stand between these pieces.  The text is first cut into
tokens, then the tokens are read from left to right.

* A word is a longest run of characters of identifiers and dots.  It is a primitive keyword or
  has to name a class.
* A type argument is no bare primitive type, and `void` takes no brackets.
-/
import ClassGen.Model.TypeRef

namespace ClassGen

open Text

/-- A piece of a written type. -/
inductive TypeToken where
  /-- A longest run of characters that words are made of. -/
  | word (chars : List Char)
  /-- Any other character that is not blank. -/
  | mark (c : Char)
deriving DecidableEq, Repr

namespace TypeToken

/-- Can the character be part of a word? -/
def isWordChar (c : Char) : Bool :=
  isIdentifierPart c || c == '.'

/-- The word whose characters, last one first, have been read so far. -/
def ofReversed (word : List Char) : List TypeToken :=
  if word.isEmpty then [] else [.word word.reverse]

/-- The tokens of a text, after the characters of a word that has not ended yet. -/
def scanFrom (word : List Char) : List Char → List TypeToken
  | [] => ofReversed word
  | c :: cs =>
    if isWordChar c then scanFrom (c :: word) cs
    else if isBlank c then ofReversed word ++ scanFrom [] cs
    else ofReversed word ++ mark c :: scanFrom [] cs

/-- The tokens of a text. -/
def scan (cs : List Char) : List TypeToken :=
  scanFrom [] cs

end TypeToken

namespace TypeRef

/-- The type followed by as many pairs of brackets as the tokens start with, and the tokens
after them. -/
def readBrackets (text : String) (t : TypeRef) :
    List TypeToken → Except NameError (TypeRef × List TypeToken)
  | .mark '[' :: .mark ']' :: rest =>
    if t.isVoid then .error (.invalidType text) else readBrackets text (array t) rest
  | .mark '[' :: _ => .error (.invalidType text)
  | rest => .ok (t, rest)

mutual

/-- The type that the tokens start with, and the tokens after it.  The first argument bounds the
depth of the recursion; the number of tokens is enough. -/
def readType (text : String) : Nat → List TypeToken → Except NameError (TypeRef × List TypeToken)
  | fuel + 1, .word chars :: rest =>
    match Primitive.ofKeyword? (String.ofList chars) with
    | some p => readBrackets text (primitive p) rest
    | none =>
      match ClassName.parse (String.ofList chars) with
      | .error e => .error e
      | .ok name =>
        match rest with
        | .mark '<' :: rest =>
          match readArgs text fuel rest with
          | .error e => .error e
          | .ok (args, rest) => readBrackets text (named name args) rest
        | rest => readBrackets text (named name []) rest
  | _, _ => .error (.invalidType text)

/-- The type arguments that the tokens start with, up to the closing angle bracket, and the
tokens after it. -/
def readArgs (text : String) :
    Nat → List TypeToken → Except NameError (List TypeRef × List TypeToken)
  | fuel + 1, tokens =>
    match readType text fuel tokens with
    | .error e => .error e
    | .ok (arg, rest) =>
      if arg.isPrimitive then .error (.invalidType text)
      else
        match rest with
        | .mark ',' :: rest =>
          match readArgs text fuel rest with
          | .error e => .error e
          | .ok (args, rest) => .ok (arg :: args, rest)
        | .mark '>' :: rest => .ok ([arg], rest)
        | _ => .error (.invalidType text)
  | 0, _ => .error (.invalidType text)

end

/-- The type that the text is written for. -/
def parse (text : String) : Except NameError TypeRef :=
  let tokens := TypeToken.scan text.toList
  match readType text (tokens.length + 1) tokens with
  | .error e => .error e
  | .ok (t, []) => .ok t
  | .ok (_, _ :: _) => .error (.invalidType text)

end TypeRef

end ClassGen
