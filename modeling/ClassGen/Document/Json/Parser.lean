/-
# Reading JSON

A text is read strictly: no comments, no commas before a closing bracket, no control characters
in strings, and nothing but blanks around the one value.
-/
import ClassGen.Document.Json

namespace ClassGen.Document.Json

/-- Is the character blank between tokens? -/
def isSpace (c : Char) : Bool :=
  c == ' ' || c == '\t' || c == '\n' || c == '\r'

/-- The characters after leading blanks. -/
def skipSpace (cs : List Char) : List Char :=
  cs.dropWhile isSpace

/-- The value of a hexadecimal digit. -/
def hexDigit? (c : Char) : Option Nat :=
  if c.isDigit then some (c.toNat - '0'.toNat)
  else if 'a' ≤ c ∧ c ≤ 'f' then some (c.toNat - 'a'.toNat + 10)
  else if 'A' ≤ c ∧ c ≤ 'F' then some (c.toNat - 'A'.toNat + 10)
  else none

/-- The value of hexadecimal digits. -/
def hexNumber? (digits : List Char) : Option Nat :=
  digits.foldlM (fun value c => (hexDigit? c).map (16 * value + ·)) 0

/-- A part of a string. -/
inductive Part where
  /-- A character. -/
  | char (c : Char)
  /-- A code unit that is written by its number. -/
  | unit (n : Nat)

/-- The character of an escape of one letter. -/
def escapedChar? : Char → Option Char
  | '"' => some '"'
  | '\\' => some '\\'
  | '/' => some '/'
  | 'b' => some '\x08'
  | 'f' => some '\x0c'
  | 'n' => some '\n'
  | 'r' => some '\r'
  | 't' => some '\t'
  | _ => none

/-- The parts of a string up to its closing quote, and the characters after it. -/
def stringParts? : List Char → Option (List Part × List Char)
  | [] => none
  | '"' :: cs => some ([], cs)
  | '\\' :: 'u' :: a :: b :: c :: d :: cs =>
    match hexNumber? [a, b, c, d] with
    | none => none
    | some n => (stringParts? cs).map fun (parts, cs) => (.unit n :: parts, cs)
  | '\\' :: e :: cs =>
    match escapedChar? e with
    | none => none
    | some c => (stringParts? cs).map fun (parts, cs) => (.char c :: parts, cs)
  | c :: cs =>
    if c.toNat < 0x20 ∨ c = '\\' then none
    else (stringParts? cs).map fun (parts, cs) => (.char c :: parts, cs)

/-- Is it the first half of a surrogate pair? -/
def isHighSurrogate (n : Nat) : Bool := decide (0xD800 ≤ n) && decide (n ≤ 0xDBFF)

/-- Is it the second half of a surrogate pair? -/
def isLowSurrogate (n : Nat) : Bool := decide (0xDC00 ≤ n) && decide (n ≤ 0xDFFF)

/-- The text that the parts make, unless half of a surrogate pair stands alone. -/
def textOfParts? : List Part → Option (List Char)
  | [] => some []
  | .char c :: parts => (textOfParts? parts).map (c :: ·)
  | .unit high :: .unit low :: parts =>
    if isHighSurrogate high then
      if isLowSurrogate low then
        (textOfParts? parts).map
          (Char.ofNat (0x10000 + (high - 0xD800) * 0x400 + (low - 0xDC00)) :: ·)
      else none
    else if isLowSurrogate high then none
    else (textOfParts? (.unit low :: parts)).map (Char.ofNat high :: ·)
  | .unit n :: parts =>
    if isHighSurrogate n || isLowSurrogate n then none
    else (textOfParts? parts).map (Char.ofNat n :: ·)

/-- The text of a string after its opening quote, and the characters after the string. -/
def string? (cs : List Char) : Option (Option String × List Char) :=
  (stringParts? cs).map fun (parts, rest) =>
    ((textOfParts? parts).map String.ofList, rest)

/-- The characters after one or more digits. -/
def skipDigits? (cs : List Char) : Option (List Char) :=
  match cs with
  | c :: cs => if c.isDigit then some (cs.dropWhile Char.isDigit) else none
  | [] => none

/-- The characters after the whole part of a number, which has no needless zero. -/
def skipWhole? : List Char → Option (List Char)
  | '0' :: cs => some cs
  | cs => skipDigits? cs

/-- The characters after the fraction of a number, if there is one. -/
def skipFraction? : List Char → Option (List Char)
  | '.' :: cs => skipDigits? cs
  | cs => some cs

/-- The characters after the exponent of a number, if there is one. -/
def skipExponent? : List Char → Option (List Char)
  | c :: cs =>
    if c = 'e' ∨ c = 'E' then
      match cs with
      | '+' :: cs => skipDigits? cs
      | '-' :: cs => skipDigits? cs
      | cs => skipDigits? cs
    else some (c :: cs)
  | [] => some []

/-- The characters after a number. -/
def skipNumber? (cs : List Char) : Option (List Char) :=
  let unsigned := match cs with
    | '-' :: cs => cs
    | cs => cs
  ((skipWhole? unsigned).bind skipFraction?).bind skipExponent?

mutual

/-- The value that the characters start with, and the characters after it.  The first argument
bounds the recursion; the number of characters is enough. -/
def value? : Nat → List Char → Option (Json × List Char)
  | 0, _ => none
  | fuel + 1, cs =>
    match skipSpace cs with
    | 'n' :: 'u' :: 'l' :: 'l' :: cs => some (null, cs)
    | 't' :: 'r' :: 'u' :: 'e' :: cs => some (bool true, cs)
    | 'f' :: 'a' :: 'l' :: 's' :: 'e' :: cs => some (bool false, cs)
    | '"' :: cs => (string? cs).map fun (text, cs) => (string text, cs)
    | '[' :: cs =>
      match skipSpace cs with
      | ']' :: cs => some (array [], cs)
      | cs => (items? fuel cs).map fun (items, cs) => (array items, cs)
    | '\x7b' :: cs =>
      match skipSpace cs with
      | '\x7d' :: cs => some (object [], cs)
      | cs => (entries? fuel cs).map fun (entries, cs) => (object entries, cs)
    | cs => (skipNumber? cs).map fun cs => (number, cs)

/-- The items of an array from its first or next one on, and the characters after the array. -/
def items? : Nat → List Char → Option (List Json × List Char)
  | 0, _ => none
  | fuel + 1, cs =>
    match value? fuel cs with
    | none => none
    | some (item, cs) =>
      match skipSpace cs with
      | ',' :: cs => (items? fuel cs).map fun (items, cs) => (item :: items, cs)
      | ']' :: cs => some ([item], cs)
      | _ => none

/-- The entries of an object from its first or next one on, and the characters after the
object. -/
def entries? : Nat → List Char → Option (List (Option String × Json) × List Char)
  | 0, _ => none
  | fuel + 1, cs =>
    match skipSpace cs with
    | '"' :: cs =>
      match string? cs with
      | none => none
      | some (name, cs) =>
        match skipSpace cs with
        | ':' :: cs =>
          match value? fuel cs with
          | none => none
          | some (v, cs) =>
            match skipSpace cs with
            | ',' :: cs => (entries? fuel cs).map fun (entries, cs) => ((name, v) :: entries, cs)
            | '\x7d' :: cs => some ([(name, v)], cs)
            | _ => none
        | _ => none
    | _ => none

end

/-- The value that the text is. -/
def parse (text : String) : Except ReadError Json :=
  match value? (2 * text.length + 1) text.toList with
  | some (v, rest) => if (skipSpace rest).isEmpty then .ok v else .error .malformed
  | none => .error .malformed

/-- What is read of the value that the text is. -/
def read {α : Type} (reading : Json → Read α) (text : String) : Except ReadError α :=
  match parse text with
  | .ok v => (reading v).run? 0
  | .error e => .error e

end ClassGen.Document.Json
