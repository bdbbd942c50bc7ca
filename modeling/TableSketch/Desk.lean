import TableSketch.Console.Grid
import TableSketch.Console.Markup
import TableSketch.Platform
import TableSketch.Settings.Basic
import TableSketch.Sketch.Tables

/-!
# The desk

A run works on a desk: the storage, the settings, the platform, the console with what
has been printed on it, and the log. `Work` is work on a desk that may fail. What was
done before a failure is not undone: files stay written and lines stay printed.
-/

namespace TableSketch

/-- Why a run fails. -/
inductive Failure where
  /-- There is no schema at the path. -/
  | noSchema (p : Path)
  /-- The name is none of a policy for duplicate tables. -/
  | unknownPolicy (name : String)
  /-- A path cannot be used. -/
  | storage (e : StorageError)
  /-- A path starts in the home directory of somebody who has none. -/
  | noHome
  /-- The markup of printed text makes no sense. -/
  | badMarkup (fault : Console.MarkupFault)
  /-- The input is no UTF-8. -/
  | notUtf8
  /-- An operand of the command line names nothing that can be worked on. -/
  | badOperand (operand complaint : String)
  /-- The run was interrupted from outside. -/
  | interrupted
  deriving DecidableEq, Repr

/-- The wording of a failure, for those that are put into words. -/
def Failure.message? : Failure → Option String
  | .noSchema p => some ("schema path not found: " ++ p.text)
  | .unknownPolicy name => some (DuplicatePolicy.unknownMessage name)
  | .noHome => some "Could not determine home directory."
  | .badOperand _ complaint => some complaint
  | .interrupted => some ""
  | .storage .terminatorInName => some "embedded null byte"
  | .badMarkup fault => fault.message?
  | .storage _ | .notUtf8 => none

/-- What a run works on. -/
structure Desk where
  storage : Storage := {}
  settings : Settings := {}
  platform : Platform := {}
  /-- The number of cells of a line on the console. -/
  columns : Nat := 200
  printed : String := ""
  log : List String := []

/-- Work on a desk that may fail; the desk is left as it is then. -/
abbrev Work (α : Type) := ExceptT Failure (StateM Desk) α

namespace Work

/-- Does the work on a desk. -/
def on {α : Type} (w : Work α) (d : Desk) : Except Failure α × Desk :=
  StateT.run (ExceptT.run w) d

/-- Prints text as it is. -/
def put (s : String) : Work Unit :=
  modify fun d => { d with printed := d.printed ++ s }

/-- Prints lines. -/
def putLines (ls : List (List Char)) : Work Unit :=
  put (String.ofList (ls.flatMap (· ++ ['\n'])))

/-- Prints marked-up text, broken into lines that fit the console. -/
def say (s : String) : Work Unit := do
  match Console.printed s with
  | .error f => throw (.badMarkup f)
  | .ok p =>
    let room := (← get).columns
    match p.drawFault? room .fold with
    | some f => throw (.badMarkup f)
    | none => putLines ((p.lines room .fold).map Console.Glyph.toChars)

/-- Adds messages to the log. -/
def note (messages : List String) : Work Unit :=
  modify fun d => { d with log := d.log ++ messages }

/-- Does something to the storage. -/
def store (f : Storage → Storage × Except StorageError Unit) : Work Unit := do
  let (s, r) := f (← get).storage
  modify fun d => { d with storage := s }
  match r with
  | .ok () => pure ()
  | .error e => throw (.storage e)

/-- Asks something about the storage. -/
def ask {α : Type} (question : Storage → Except StorageError α) : Work α := do
  match question (← get).storage with
  | .ok a => pure a
  | .error e => throw (.storage e)

/-- Replaces `~` at the front of a path. -/
def expandHome (p : Path) : Work Path := do
  match Path.expandHome? (← get).storage.home? p with
  | some p => pure p
  | none =>
    if Path.hasTerminator ⟨.relative, p.parts.take 1⟩ then throw (.storage .terminatorInName)
    else throw .noHome

/-- The tables of a sketch under the settings, duplicates resolved; remarks go to the log. -/
def tablesOf (text : String) : Work (List Table) := do
  let settings := (← get).settings
  note ((remarks settings.scanMode text).map Remark.message)
  match DuplicatePolicy.ofName? settings.duplicates with
  | some p => pure (resolveDuplicates p (tables settings.scanMode text))
  | none => throw (.unknownPolicy settings.duplicates)

end Work

end TableSketch
