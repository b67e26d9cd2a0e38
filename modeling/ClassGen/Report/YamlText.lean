/-
# Texts as YAML scalars

A text is written plain where that reads back as the same text, else between single quotes, else
between double quotes; a text of several lines is written as a literal block.
-/
import ClassGen.Report.Resolve
import ClassGen.Document.Yaml.Cursor

namespace ClassGen.YamlText

open Document.Yaml (isBreak isSpaceOrTab)

/-- Can the character be written as it is? -/
def isPrintable (c : Char) : Bool :=
  let n := c.toNat
  n == 0x0A || (decide (0x20 ≤ n) && decide (n ≤ 0x7E))
    || (decide (0xA0 ≤ n) && n != 0xFEFF && n != 0xFFFE && n != 0xFFFF)

/-- Is there a gap at the start of the characters: a blank, a line break, or the end? -/
def startsWithGap : List Char → Bool
  | [] => true
  | c :: _ => isSpaceOrTab c || isBreak c

/-- Does a pair of neighbours satisfy the test? -/
def anyNeighbours (p : Char → Char → Bool) : List Char → Bool
  | a :: b :: cs => p a b || anyNeighbours p (b :: cs)
  | _ => false

/-- May a plain scalar start with these characters? -/
def startsPlain : List Char → Bool
  | [] => false
  | c :: cs =>
    if ['#', ',', '[', ']', '\x7b', '\x7d', '&', '*', '!', '|', '>', '\'', '"', '%', '@',
      '\x60'].contains c then false
    else if c = '?' ∨ c = ':' ∨ c = '-' then !startsWithGap cs
    else true

/-- May a plain scalar go on with these characters, after the character `last`?  A colon before
a gap and a number sign after one may not stand in it. -/
def continuesPlain (last : Char) : List Char → Bool
  | [] => true
  | c :: cs =>
    !(c == ':' && startsWithGap cs) && !(c == '#' && startsWithGap [last])
      && continuesPlain c cs

/-- Does the text look like a line that separates documents? -/
def looksLikeMark (cs : List Char) : Bool :=
  ['-', '-', '-'].isPrefixOf cs || ['.', '.', '.'].isPrefixOf cs

/-- Does a space come before a line break? -/
def hasSpaceBeforeBreak (cs : List Char) : Bool :=
  anyNeighbours (fun a b => a == ' ' && isBreak b) cs

/-- Does a space come after a line break? -/
def hasSpaceAfterBreak (cs : List Char) : Bool :=
  anyNeighbours (fun a b => isBreak a && b == ' ') cs

/-- Can the text be written without quotes? -/
def plainAllowed (cs : List Char) : Bool :=
  match cs with
  | [] => false
  | c :: rest =>
    cs.all (fun x => isPrintable x && !isBreak x) && c != ' ' && cs.getLast? != some ' '
      && !looksLikeMark cs && startsPlain cs && continuesPlain c rest

/-- Can the text be written between single quotes? -/
def singleQuotedAllowed (cs : List Char) : Bool :=
  cs.all isPrintable && !hasSpaceBeforeBreak cs && !hasSpaceAfterBreak cs

/-- Can the text be written as a literal block? -/
def literalAllowed (cs : List Char) : Bool :=
  !cs.isEmpty && cs.all isPrintable && !hasSpaceBeforeBreak cs && cs.getLast? != some ' '

/-- So many spaces. -/
def spaces (n : Nat) : List Char := List.replicate n ' '

/-- The characters with every line but the first indented, where `atStart` says whether a line
starts here, and each character as `write` puts it. -/
def indentLines (indent : Nat) (write : Char → List Char) (atStart : Bool) :
    List Char → List Char
  | [] => []
  | c :: cs =>
    if isBreak c then c :: indentLines indent write true cs
    else (if atStart then spaces indent else []) ++ write c ++ indentLines indent write false cs

/-- Does the text end in a line break? -/
def endsInBreak (cs : List Char) : Bool :=
  match cs.getLast? with
  | some c => isBreak c
  | none => false

/-- The text between single quotes; a quote in it is written twice. -/
def singleQuoted (indent : Nat) (cs : List Char) : List Char :=
  ['\''] ++ indentLines indent (fun c => if c = '\'' then ['\'', '\''] else [c]) false cs
    ++ (if endsInBreak cs then spaces indent else []) ++ ['\'']

/-- A digit to the base sixteen. -/
def hexDigit (n : Nat) : Char :=
  if n < 10 then Char.ofNat ('0'.toNat + n) else Char.ofNat ('A'.toNat + (n - 10))

/-- The last `count` digits of a number to the base sixteen. -/
def hexDigits : Nat → Nat → List Char
  | 0, _ => []
  | count + 1, n => hexDigits count (n / 16) ++ [hexDigit (n % 16)]

/-- The letter of the escape for a character that has one. -/
def escapeLetter? (n : Nat) : Option Char :=
  [(0x00, '0'), (0x07, 'a'), (0x08, 'b'), (0x09, 't'), (0x0A, 'n'), (0x0B, 'v'), (0x0C, 'f'),
    (0x0D, 'r'), (0x1B, 'e'), (0x22, '"'), (0x5C, '\\'), (0x85, 'N'), (0xA0, '_'),
    (0x2028, 'L'), (0x2029, 'P')].lookup n

/-- A character as it stands between double quotes. -/
def doubleQuotedChar (c : Char) : List Char :=
  let n := c.toNat
  if isPrintable c && !isBreak c && c != '"' && c != '\\' then [c]
  else
    match escapeLetter? n with
    | some letter => ['\\', letter]
    | none =>
      if n ≤ 0xFF then '\\' :: 'x' :: hexDigits 2 n
      else if n ≤ 0xFFFF then '\\' :: 'u' :: hexDigits 4 n
      else '\\' :: 'U' :: hexDigits 8 n

/-- The text between double quotes. -/
def doubleQuoted (cs : List Char) : List Char :=
  ['"'] ++ cs.flatMap doubleQuotedChar ++ ['"']

/-- The signs in the header of a literal block: its indentation, if its first line starts with a
blank or is empty, and what becomes of the line breaks at its end. -/
def literalHints (cs : List Char) : List Char :=
  let indent := match cs with
    | c :: _ => if c = ' ' ∨ isBreak c then ['2'] else []
    | [] => []
  let chomp := match cs.reverse with
    | [] => ['-']
    | c :: before =>
      if !isBreak c then ['-']
      else
        match before with
        | [] => ['+']
        | d :: _ => if isBreak d then ['+'] else []
  indent ++ chomp

/-- The text as a literal block, with the end of its last line. -/
def literal (indent : Nat) (cs : List Char) : List Char :=
  ['|'] ++ literalHints cs ++ ['\n'] ++ indentLines indent (fun c => [c]) true cs
    ++ (if endsInBreak cs then [] else ['\n'])

/-- A text without line feeds, plain if that can be and else in quotes. -/
def inlineText (indent : Nat) (s : String) : List Char :=
  let cs := s.toList
  if plainAllowed cs && !Resolve.isAmbiguous s then cs
  else if singleQuotedAllowed cs then singleQuoted indent cs
  else doubleQuoted cs

/-- The text as a scalar whose further lines are indented, with the end of its last line. -/
def write (indent : Nat) (s : String) : String :=
  let cs := s.toList
  String.ofList <|
    if cs.contains '\n' then
      if literalAllowed cs then literal indent cs else doubleQuoted cs ++ ['\n']
    else inlineText indent s ++ ['\n']

end ClassGen.YamlText
