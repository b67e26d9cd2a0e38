/-
# Words of a name

A name is cut into words wherever a character is neither a letter nor a digit, and within such a
piece by the case of its letters:

* before a capital that follows a small letter, `purchaseOrder`;
* before the last capital of a run that a small letter follows, `HTTPServer`.

Characters without case, such as digits, do not end a word and do not change what the last cased
character was.
-/
import ClassGen.Text.Numeric
import ClassGen.Text.Case

namespace ClassGen

open Text

/-- The case of the last cased character of the word that is being read. -/
inductive LastCase where
  /-- No cased character yet. -/
  | neither
  /-- A lowercase character. -/
  | lower
  /-- An uppercase character. -/
  | upper
deriving DecidableEq, Repr

/-- The case after one more character. -/
def LastCase.after (last : LastCase) (c : Char) : LastCase :=
  if isLowercase c then .lower else if isUppercase c then .upper else last

/-- The words of the rest of a piece, when the characters `word`, last one first, of the current
word have been read and `last` is the case of that word. -/
def wordsFrom (last : LastCase) (word : List Char) : List Char → List (List Char)
  | [] => []
  | [c] => [(c :: word).reverse]
  | c :: next :: rest =>
    if last.after c = .lower ∧ isUppercase next then
      (c :: word).reverse :: wordsFrom .neither [] (next :: rest)
    else if last = .upper ∧ isUppercase c ∧ isLowercase next then
      word.reverse :: wordsFrom .neither [c] (next :: rest)
    else wordsFrom (last.after c) (c :: word) (next :: rest)

/-- The longest runs of letters and digits of a text; runs at a separator may be empty. -/
def pieces : List Char → List (List Char)
  | [] => [[]]
  | c :: cs =>
    if isAlphanumeric c then
      match pieces cs with
      | [] => [[c]]
      | piece :: rest => (c :: piece) :: rest
    else [] :: pieces cs

/-- The words of a text. -/
def words (cs : List Char) : List (List Char) :=
  (pieces cs).flatMap (wordsFrom .neither [])

/-- The word in lower case; a sigma that ends it takes its final form. -/
def lowerWord : List Char → List Char
  | [] => []
  | [c] => if c = 'Σ' then ['ς'] else toLower c
  | c :: cs => toLower c ++ lowerWord cs

/-- The word with its first character in upper case and the others in lower case. -/
def capitalWord : List Char → List Char
  | [] => []
  | c :: cs => toUpper c ++ lowerWord cs

/-- The words written together, each with a capital. -/
def upperCamel (cs : List Char) : List Char :=
  (words cs).flatMap capitalWord

/-- The words written together, each but the first with a capital. -/
def lowerCamel (cs : List Char) : List Char :=
  match words cs with
  | [] => []
  | word :: rest => lowerWord word ++ rest.flatMap capitalWord

end ClassGen
