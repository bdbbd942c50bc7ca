import TableSketch.Schema.Basic
import TableSketch.Sketch.Entry
import TableSketch.Sketch.Scan
import TableSketch.Text.Quoted

/-!
# The tables of a sketch

A block whose entries include the directive `shape: sql_table`, anywhere and any
number of times, is a table; its other complete entries are the columns, in order.
Nothing in a sketch is an error. A finding of the scan that yields no table yields
a remark instead, so every finding has exactly one outcome.
-/

namespace TableSketch

/-- Why a heading yields no table. -/
inductive Remark where
  /-- The block has no directive. -/
  | shapeless (name : String)
  /-- Braces open inside the block. -/
  | nested (name : String)
  /-- The block does not end. -/
  | unterminated (name : String)
  deriving DecidableEq, Repr

/-- The wording of a remark. -/
def Remark.message : Remark → String
  | .shapeless name => "block " ++ Text.quoted name ++ " has no `shape: sql_table`, skipped"
  | .nested name => "nested block " ++ Text.quoted name ++ " rejected"
  | .unterminated name => "unterminated block " ++ Text.quoted name ++ " dropped"

/-- The column that an entry declares. -/
def Entry.column (e : Entry) : Column :=
  ⟨String.ofList e.key, String.ofList e.value⟩

/-- The table that a block describes, if it has the directive. -/
def Block.table? (b : Block) : Option Table :=
  let es := entries b.body
  if es.contains Entry.directive then
    some ⟨String.ofList b.name, (es.filter Entry.isColumn).map Entry.column⟩
  else none

/-- What becomes of a finding. -/
inductive Outcome where
  | table (t : Table)
  | remark (r : Remark)
  deriving DecidableEq, Repr

namespace Outcome

/-- The table of an outcome. -/
def table? : Outcome → Option Table
  | .table t => some t
  | .remark _ => none

/-- The remark of an outcome. -/
def remark? : Outcome → Option Remark
  | .table _ => none
  | .remark r => some r

end Outcome

/-- A block becomes a table, or a remark that it has no directive. -/
def Block.outcome (b : Block) : Outcome :=
  match b.table? with
  | some t => .table t
  | none => .remark (.shapeless (String.ofList b.name))

/-- The outcome of a finding. -/
def Finding.outcome : Finding → Outcome
  | .block b => b.outcome
  | .nested name => .remark (.nested (String.ofList name))
  | .unterminated name => .remark (.unterminated (String.ofList name))

/-- The outcomes of a sketch, in the order of its text. -/
def outcomes (mode : ScanMode) (text : String) : List Outcome :=
  (findings mode text.toList).map Finding.outcome

/-- The tables of a sketch, in order; tables of one name stay apart. -/
def tables (mode : ScanMode) (text : String) : List Table :=
  (outcomes mode text).filterMap Outcome.table?

/-- The remarks on a sketch, in order. -/
def remarks (mode : ScanMode) (text : String) : List Remark :=
  (outcomes mode text).filterMap Outcome.remark?

end TableSketch
