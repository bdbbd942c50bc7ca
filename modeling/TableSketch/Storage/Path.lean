import TableSketch.Text.Case
import TableSketch.Text.Pieces

/-!
# Paths

A path is a list of parts below an anchor. Empty parts and parts that are a single
dot say nothing and are dropped when a text is read as a path, and a trailing slash
goes with them; the part `..` stays, because what it means depends on the tree.

The suffix of a path is the end of its last part from the last dot on, unless that
dot is the first or the last character of the part.
-/

namespace TableSketch

/-- Where a path starts. Exactly two slashes are an anchor of their own. -/
inductive Anchor where
  | relative
  | root
  | doubleRoot
  deriving DecidableEq, Repr

/-- A path. -/
structure Path where
  anchor : Anchor := .relative
  parts : List String := []
  deriving DecidableEq, Repr

namespace Path

/-- The parts of a text that say something. -/
def partsOf (text : List Char) : List String :=
  ((Text.pieces (· == '/') text).filter fun p => p != [] && p != ['.']).map String.ofList

/-- The anchor of a text. -/
def anchorOf (text : List Char) : Anchor :=
  match (text.takeWhile (· == '/')).length with
  | 0 => .relative
  | 2 => .doubleRoot
  | _ => .root

/-- Reads a text as a path. -/
def ofString (s : String) : Path :=
  ⟨anchorOf s.toList, partsOf s.toList⟩

/-- The text of a path; the relative path without parts is a single dot. -/
def text (p : Path) : String :=
  let body := "/".intercalate p.parts
  match p.anchor with
  | .relative => if p.parts.isEmpty then "." else body
  | .root => "/" ++ body
  | .doubleRoot => "//" ++ body

/-- A path below another one; one that is not relative stands for itself. -/
def join (p q : Path) : Path :=
  if q.anchor = .relative then { p with parts := p.parts ++ q.parts } else q

/-- The path that a text names below another path. -/
def child (p : Path) (s : String) : Path :=
  p.join (ofString s)

/-- The path without its last part. -/
def parent (p : Path) : Path :=
  { p with parts := p.parts.dropLast }

/-- The last part, empty if there is none. -/
def name (p : Path) : String :=
  p.parts.getLast?.getD ""

/-- A name cut in front of its suffix. -/
def splitSuffix (name : List Char) : List Char × List Char :=
  let last := name.reverse.takeWhile (· != '.')
  match name.reverse.dropWhile (· != '.') with
  | [] | [_] => (name, [])
  | _ :: stem => if last.isEmpty then (name, []) else (stem.reverse, '.' :: last.reverse)

/-- The suffix of the last part. -/
def suffix (p : Path) : String :=
  String.ofList (splitSuffix p.name.toList).2

/-- The last part without its suffix. -/
def stem (p : Path) : String :=
  String.ofList (splitSuffix p.name.toList).1

/-- The path with `~` at its front replaced by a home directory. The name of an account may follow
the `~`; it is empty for the own one. Nothing if the account has no home. -/
def expandHome? (home? : String → Option Path) (p : Path) : Option Path :=
  match p.anchor, p.parts with
  | .relative, part :: rest =>
    match part.toList with
    | '~' :: account =>
      (home? (String.ofList account)).map fun home => { home with parts := home.parts ++ rest }
    | _ => some p
  | _, _ => some p

/-- Whether a part holds the character that ends names in a storage, so that the path can name
nothing. -/
def hasTerminator (p : Path) : Bool :=
  p.parts.any (·.toList.contains '\x00')

/-- The order of paths: part by part, by code points. -/
def before (a b : List String) : Bool :=
  match a, b with
  | [], _ => true
  | _ :: _, [] => false
  | x :: xs, y :: ys => if x = y then before xs ys else decide (x < y)

theorem join_relative (p : Path) (parts : List String) :
    p.join ⟨.relative, parts⟩ = { p with parts := p.parts ++ parts } := rfl

end Path

/-- The suffix of files that hold sketches. -/
def sketchSuffix : String := ".d2"

/-- Whether a path names a file of sketches, by its suffix in lower case. -/
def Path.isSketch (p : Path) : Bool :=
  Text.lower p.suffix == sketchSuffix

end TableSketch
