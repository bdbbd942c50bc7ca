/-!
# Checking values from outside

Checks do not stop at the first thing that is wrong: they report every issue, each
with its place, in the order in which the parts of the value are declared. A
checked value is either right as a whole or comes with all of its issues.
-/

namespace TableSketch

/-- A step on the way to a part of a value. -/
inductive Step where
  | field (name : String)
  | item (index : Nat)
  deriving DecidableEq, Repr

/-- What can be wrong. -/
inductive Fault where
  | missing
  | notAnObject
  | notAList
  | notAString
  /-- A value that is no truth value and is not read as one either. -/
  | notABool
  /-- A number or word that is read as a truth value, but is none of those that have one. -/
  | unreadableBool
  | unreadableInt
  /-- A whole number with more digits than are read. -/
  | oversizedInt
  | unreadableNumber
  /-- A number that must be greater than its bound. -/
  | notGreater
  /-- A number that must not be less than its bound. -/
  | less
  /-- A word that is none of the choices. -/
  | notAChoice
  deriving DecidableEq, Repr

/-- A fault and its place. -/
structure Issue where
  place : List Step
  fault : Fault
  deriving DecidableEq, Repr

/-- A value, or all that is wrong with it. -/
abbrev Checked (α : Type) := Except (List Issue) α

namespace Checked

/-- One issue. -/
def fail {α : Type} (place : List Step) (fault : Fault) : Checked α :=
  .error [⟨place, fault⟩]

/-- Checks two parts; the issues of the first come first. -/
def both {α β : Type} (a : Checked α) (b : Checked β) : Checked (α × β) :=
  match a, b with
  | .ok a, .ok b => .ok (a, b)
  | .ok _, .error f => .error f
  | .error e, .ok _ => .error e
  | .error e, .error f => .error (e ++ f)

/-- Checks every item of a list, in order. -/
def all {α : Type} : List (Checked α) → Checked (List α)
  | [] => .ok []
  | a :: as => (both a (all as)).map fun p => p.1 :: p.2

theorem all_map_ok {α : Type} (xs : List α) : all (xs.map Except.ok) = .ok xs := by
  induction xs with
  | nil => rfl
  | cons x xs ih => simp [all, ih, both, Except.map]

end Checked

end TableSketch
