import TableSketch.Text.Blank
import TableSketch.Text.Cluster

/-!
# Text on its way to the console

Printed text is a list of glyphs: characters of which some stand directly behind the
beginning or the end of a style. Such an edge is not printed, but the text of a line is
drawn piece by piece between its edges, and no character changes how one beyond an edge
is drawn. So the cells that a line takes when it is drawn (`drawnWidth`) can be others
than those of its text (`cells`).
-/

namespace TableSketch.Console

/-- A character of printed text. -/
structure Glyph where
  char : Char
  /-- Whether a style begins or ends in front of it. -/
  edge : Bool := false
  /-- The number of glyphs in front of it in its text, once they have been numbered. -/
  place : Nat := 0
  deriving DecidableEq, Repr

namespace Glyph

/-- A blank. -/
def blank : Glyph :=
  { char := ' ' }

/-- Text without styles. -/
def ofChars (cs : List Char) : List Glyph :=
  cs.map fun c => { char := c }

/-- The characters of printed text. -/
def toChars (gs : List Glyph) : List Char :=
  gs.map (·.char)

/-- Numbers the glyphs of a text. -/
def number (gs : List Glyph) : List Glyph :=
  gs.zipIdx.map fun (g, place) => { g with place := place }

/-- Whether a glyph is a blank of any kind. -/
def isBlank (g : Glyph) : Bool :=
  Text.isBlank g.char

/-- Printed text without the blanks at its end. -/
def trimRight (gs : List Glyph) : List Glyph :=
  (gs.reverse.dropWhile isBlank).reverse

/-- The cells of a text. -/
def cells (gs : List Glyph) : Nat :=
  Text.width (toChars gs)

/-- The pieces of a line between its edges. -/
def drawnPieces : List Glyph → List (List Glyph)
  | [] => []
  | g :: gs =>
    match drawnPieces gs with
    | [] => [[g]]
    | piece :: pieces =>
      if piece.head?.any (·.edge) then [g] :: piece :: pieces else (g :: piece) :: pieces

/-- The cells that a line takes when it is drawn. -/
def drawnWidth (gs : List Glyph) : Nat :=
  ((drawnPieces gs).map cells).foldr (· + ·) 0

/-- The front of clusters that takes a number of cells. If a cluster stands across the edge, a blank
takes its place. -/
def takeClusters (room : Nat) : List (Text.Cluster Glyph) → List Glyph
  | [] => []
  | c :: cs =>
    if room = 0 then []
    else if c.cells ≤ room then c.items ++ takeClusters (room - c.cells) cs
    else [blank]

/-- The front of a text, which is wider, that takes a number of cells. -/
def takeCells (room : Nat) (gs : List Glyph) : List Glyph :=
  takeClusters room (Text.clusters char gs)

/-- A text that takes exactly a number of cells, being cut off or filled up with blanks. -/
def fit (room : Nat) (gs : List Glyph) : List Glyph :=
  if cells gs ≤ room then gs ++ List.replicate (room - cells gs) blank else takeCells room gs

/-- The pieces of a line that is drawn too wide, up to the one that reaches the edge; that one is
cut to fit. -/
def cropPieces (room : Nat) : List (List Glyph) → List Glyph
  | [] => []
  | piece :: pieces =>
    if cells piece < room then piece ++ cropPieces (room - cells piece) pieces else fit room piece

/-- A line that is drawn on exactly a number of cells. -/
def fitDrawn (room : Nat) (gs : List Glyph) : List Glyph :=
  if drawnWidth gs ≤ room then gs ++ List.replicate (room - drawnWidth gs) blank
  else cropPieces room (drawnPieces gs)

end Glyph

end TableSketch.Console
