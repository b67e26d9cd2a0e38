/-
# Reading values of a document

What a document says is read by asking for a text, a flag, a list or a record.  The same reading
serves every format; a format says what each of these is.

A format may let one place of a document stand for another.  How often a reading may follow such
a reference is bounded, so a short document cannot stand for an endless one.
-/

namespace ClassGen.Document

/-- Why a document is refused. -/
inductive ReadError where
  /-- The text does not follow the rules of the format. -/
  | malformed
  /-- The document does not hold what is asked for. -/
  | mismatch
deriving DecidableEq, Repr

/-- The wording of the error. -/
def ReadError.message : ReadError → String
  | .malformed => "the text is not well formed"
  | .mismatch => "the document does not hold what is expected"

/-- A reading that may follow a number of references and may find something other than what it
asks for. -/
abbrev Read (α : Type) := StateT Nat Option α

/-- The reading that finds nothing of what it asks for. -/
def refuse {α : Type} : Read α := fun _ => none

/-- Follow one reference. -/
def followReference : Read Unit := fun left =>
  match left with
  | 0 => none
  | n + 1 => some ((), n)

/-- What a reading finds when it may follow `references` references. -/
def Read.run? {α : Type} (r : Read α) (references : Nat) : Except ReadError α :=
  match r references with
  | some (a, _) => .ok a
  | none => .error .mismatch

/-- A format: what can be asked of its values. -/
class Format (ν : Type) where
  /-- The text that the value is. -/
  text : ν → Read String
  /-- The flag that the value is. -/
  flag : ν → Read Bool
  /-- Nothing, or the value that is there. -/
  optional : ν → Read (Option ν)
  /-- The members of the list that the value is. -/
  list : ν → Read (List ν)
  /-- The values of the record under the given names, in the order of these names.  Other names
  do not matter, and no given name occurs twice. -/
  record : List String → ν → Read (List (Option ν))

variable {ν : Type} [Format ν]

/-- What is read of a value that is there, or else a default. -/
def withDefault {α : Type} (default : α) (read : ν → Read α) : Option ν → Read α
  | none => pure default
  | some v => read v

/-- What is read of a value that has to be there. -/
def required {α : Type} (read : ν → Read α) : Option ν → Read α
  | none => refuse
  | some v => read v

/-- The text that the value is, if it is not nothing. -/
def optionalText (v : ν) : Read (Option String) := do
  match ← Format.optional v with
  | none => pure none
  | some v => some <$> Format.text v

/-- What is read of each member of a list. -/
def listOf {α : Type} (read : ν → Read α) (v : ν) : Read (List α) := do
  (← Format.list v).mapM read

/-- The value under a name among the values of a record, by its position. -/
def field (values : List (Option ν)) (position : Nat) : Option ν :=
  values.getD position none

end ClassGen.Document
