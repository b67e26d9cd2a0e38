/-
# Source files

Every class of a code model becomes a file of its own, at the path that its package and simple
name give.  A model is refused as a whole at the first class that is refused: because two of its
methods have one signature, or else because its imports clash.
-/
import ClassGen.Source.Imports
import ClassGen.Source.Layout

namespace ClassGen

/-- A file to be written. -/
structure SourceFile where
  /-- The path, below the directory of generated files. -/
  path : String
  /-- The text of the file. -/
  content : String
deriving DecidableEq, Repr

/-- The path of the file of a class: the segments of its package as directories. -/
def sourcePath (package simple : String) : String :=
  if package = "" then simple ++ ".java"
  else String.ofList (package.toList.map fun c => if c = '.' then '/' else c)
    ++ "/" ++ simple ++ ".java"

namespace Signature

/-- The first signature that is among those before it, when those of `seen` come first. -/
def firstRepeated? (seen : List Signature) : List Signature → Option Signature
  | [] => none
  | s :: ss => if seen.contains s then some s else firstRepeated? (s :: seen) ss

end Signature

namespace ClassDef

/-- The source text of the class, with or without the comments that descriptions give. -/
def render (comments : Bool) (c : ClassDef) : Except RenderError String :=
  match Signature.firstRepeated? [] (c.methods.map (·.signature)) with
  | some s => .error (.duplicateMethod c.name s)
  | none =>
    match c.imports with
    | .error e => .error e
    | .ok imports =>
      .ok (Piece.renderAll ((c.pieces imports).filter fun p => comments || p.isCode))

/-- The file of the class. -/
def sourceFile (comments : Bool) (c : ClassDef) : Except RenderError SourceFile :=
  match c.render comments with
  | .error e => .error e
  | .ok content => .ok ⟨sourcePath c.name.package c.name.simple, content⟩

/-- The files of the classes, up to the first class that is refused. -/
def sourceFiles (comments : Bool) : List ClassDef → Except RenderError (List SourceFile)
  | [] => .ok []
  | c :: cs =>
    match c.sourceFile comments with
    | .error e => .error e
    | .ok file =>
      match sourceFiles comments cs with
      | .error e => .error e
      | .ok files => .ok (file :: files)

end ClassDef

/-- The source files of the model, with or without the comments that descriptions give. -/
def CodeModel.sourceFiles (comments : Bool) (m : CodeModel) :
    Except RenderError (List SourceFile) :=
  ClassDef.sourceFiles comments m.classes

end ClassGen
