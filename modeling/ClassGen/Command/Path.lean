/-
# Paths

A path is a text whose parts are separated by slashes.  Its steps are the parts that lead
somewhere: empty parts and `.` do not.  They are taken from the root of all directories if the path
starts with a slash, and from the working directory otherwise.  A place is given by the steps down
to it from the root.
-/
import ClassGen.Text.Split

namespace ClassGen.Path

open Text

/-- The steps of a path. -/
def steps (path : String) : List String :=
  ((splitOn '/' path.toList).filter fun p => !p.isEmpty && p != ['.']).map String.ofList

/-- Does the path start at the root of all directories? -/
def isAbsolute (path : String) : Bool :=
  path.toList.head? == some '/'

/-- The place where the steps of the path are taken from, seen from the working directory. -/
def start (here : List String) (path : String) : List String :=
  if isAbsolute path then [] else here

/-- The place that a step leads to.  At the root a step up leads nowhere else. -/
def enter (place : List String) (step : String) : List String :=
  if step = ".." then place.dropLast else place ++ [step]

/-- Is the character in the path that ends the texts of the file system? -/
def hasNul (path : String) : Bool :=
  path.toList.contains (Char.ofNat 0)

/-- Does the path end in a way that only a directory may: in a slash, or in a slash and a dot? -/
def namesDirectory (path : String) : Bool :=
  match (splitOn '/' path.toList).reverse with
  | [] :: _ :: _ => true
  | ['.'] :: _ :: _ => true
  | _ => false

/-- Does the path end in a dot that is a part of its own, at most before slashes? -/
def endsInDot (path : String) : Bool :=
  ((splitOn '/' path.toList).reverse.dropWhile (·.isEmpty)).head? == some ['.']

/-- The path that leads on from a directory; an absolute path leads where it leads anyway. -/
def join (base path : String) : String :=
  if isAbsolute path then path
  else if base = "" ∨ base.toList.getLast? = some '/' then base ++ path
  else base ++ "/" ++ path

/-- The parts, last one first, without those at the end that lead nowhere; the first part of all
counts. -/
def dropIdle : List (List Char) → List (List Char)
  | [] => []
  | [first] => [first]
  | part :: before => if part.isEmpty || part == ['.'] then dropIdle before else part :: before

/-- The parts of the path, last one first, without those at the end that lead nowhere. -/
def partsBack (path : String) : List (List Char) :=
  dropIdle (splitOn '/' path.toList).reverse

/-- The path of these parts, given last one first.  The root has one empty part. -/
def ofReversed (parts : List (List Char)) : String :=
  if parts = [[]] then "/" else String.ofList (joinWith ['/'] parts.reverse)

/-- The path of the directory that holds the place, as the path is written. -/
def parent (path : String) : String :=
  ofReversed (dropIdle ((partsBack path).drop 1))

/-- The paths of the directories that hold a place, from the inside out, by the parts of its path,
given last one first; the first part of all counts. -/
def ancestorsOf : List (List Char) → List String
  | [] => []
  | [first] => [ofReversed [first]]
  | part :: before =>
    if part.isEmpty || part == ['.'] then ancestorsOf before
    else ofReversed (part :: before) :: ancestorsOf before

/-- The path, and those of the directories that hold the place. -/
def ancestors (path : String) : List String :=
  if path = "" then [] else path :: ancestorsOf ((partsBack path).drop 1)

/-- The name of the place that the path leads to; none, if its last step leads up. -/
def fileName? (path : String) : Option String :=
  match (steps path).getLast? with
  | some ".." => none
  | last => last

/-- What stands after the last dot of a file name, unless the name only starts with a dot. -/
def extension? (path : String) : Option String :=
  match (fileName? path).map fun name => (splitOn '.' name.toList).reverse with
  | some (ext :: before) =>
    match before with
    | [] => none
    | [[]] => none
    | _ => some (String.ofList ext)
  | _ => none

end ClassGen.Path
