/-
# Directories as values

A directory where a command runs, with all that paths can lead to from it: what is found at each
place below the root of all directories, and the place of the directory itself.  At every place
there is a directory, a file or nothing.  The session of a command in such a directory holds what
has been printed, too.
-/
import ClassGen.Command.Workspace

namespace ClassGen

/-- What is found at a place. -/
inductive Entry where
  | directory
  | file (content : ByteArray)

/-- A directory among all directories and files. -/
structure Directory where
  /-- The entries by the steps that lead to them from the root; of two for one place the first one
  counts. -/
  entries : List (List String × Entry)
  /-- The place of the directory, where paths start that are not absolute. -/
  here : List String

namespace Directory

/-- The root, with nothing in it. -/
def empty : Directory := ⟨[], []⟩

/-- What is found at a place.  The directory itself is there, and so are those that hold it. -/
def get? (d : Directory) (place : List String) : Option Entry :=
  if place <+: d.here then some .directory else d.entries.lookup place

/-- The entries with `e` at a place. -/
def putEntry (place : List String) (e : Entry) :
    List (List String × Entry) → List (List String × Entry)
  | [] => [(place, e)]
  | (p, old) :: rest => if p = place then (p, e) :: rest else (p, old) :: putEntry place e rest

/-- The directory with an entry at a place. -/
def put (d : Directory) (place : List String) (e : Entry) : Directory :=
  { d with entries := putEntry place e d.entries }

/-- The place that steps lead to from a place, when all but the last of them have to lead into
directories. -/
def walk (d : Directory) (place : List String) : List String → Except FileError (List String)
  | [] => .ok place
  | step :: steps =>
    match d.get? place with
    | none => .error .notFound
    | some (.file _) => .error .notDirectory
    | some .directory => d.walk (Path.enter place step) steps

/-- The place that a path leads to.  The empty path leads nowhere. -/
def locate (d : Directory) (path : String) : Except FileError (List String) :=
  if path = "" then .error .notFound
  else if Path.hasNul path then .error .nulInPath
  else d.walk (Path.start d.here path) (Path.steps path)

/-- What is found at the path. -/
def find (d : Directory) (path : String) : Except FileError Entry :=
  match d.locate path with
  | .error e => .error e
  | .ok place =>
    match d.get? place with
    | none => .error .notFound
    | some (.file content) =>
      if Path.namesDirectory path then .error .notDirectory else .ok (.file content)
    | some .directory => .ok .directory

/-- The text of the file at the path. -/
def readText (d : Directory) (path : String) : Except FileError String :=
  match d.find path with
  | .error e => .error e
  | .ok .directory => .error .isDirectory
  | .ok (.file content) =>
    match String.fromUTF8? content with
    | some text => .ok text
    | none => .error .notText

/-- Is there a directory at the path? -/
def isDirectory (d : Directory) (path : String) : Bool :=
  d.find path matches .ok .directory

/-- The directory with a directory made at the path.  A path that ends in a dot leads to what has
to be there already. -/
def makeDir (d : Directory) (path : String) : Except FileError Unit × Directory :=
  match d.locate path with
  | .error e => (.error e, d)
  | .ok place =>
    match d.get? place, Path.endsInDot path with
    | none, false => (.ok (), d.put place .directory)
    | none, true => (.error .notFound, d)
    | some (.file _), true => (.error .notDirectory, d)
    | some _, _ => (.error .alreadyExists, d)

/-- The directory with a text in the file at the path. -/
def writeText (d : Directory) (path text : String) : Except FileError Unit × Directory :=
  match d.locate path with
  | .error e => (.error e, d)
  | .ok place =>
    if Path.namesDirectory path || d.get? place matches some .directory then
      (.error .isDirectory, d)
    else (.ok (), d.put place (.file text.toUTF8))

end Directory

/-- A command's run in a directory.  Texts on the command line itself are not kept. -/
structure Session where
  /-- The directory, with all that paths lead to from it. -/
  directory : Directory
  /-- What has been printed as the result of the command. -/
  printed : String
  /-- What has been printed about what the command does. -/
  reported : String

instance : Workspace (StateM Session) where
  pathExists path := fun s => (s.directory.find path matches .ok _, s)
  readText path := fun s => (s.directory.readText path, s)
  isDirectory path := fun s => (s.directory.isDirectory path, s)
  makeDir path := fun s =>
    let (r, d) := s.directory.makeDir path
    (r, { s with directory := d })
  writeText path text := fun s =>
    let (r, d) := s.directory.writeText path text
    (r, { s with directory := d })
  print text := fun s => ((), { s with printed := s.printed ++ text })
  report text := fun s => ((), { s with reported := s.reported ++ text })
  showHelp := pure ()
  showCompletions _ := pure ()

end ClassGen
