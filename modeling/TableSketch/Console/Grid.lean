import TableSketch.Console.Layout

/-!
# Boxed tables

A table of two columns in a box of line-drawing characters, under a title that is
set to the left edge. The columns are as wide as their contents. When the console is
too narrow, the wider column gives way first, and then both; text that does not fit
its column is broken between words or cut off.
-/

namespace TableSketch.Console

/-- A table of two columns. -/
structure Grid where
  title : Printed
  header : Printed × Printed
  rows : List (Printed × Printed)
  deriving DecidableEq, Repr

/-- Where a text is cut into lines when its width is taken. -/
def isLineBreak (c : Char) : Bool :=
  let n := c.toNat
  (0x0A ≤ n && n ≤ 0x0D) || (0x1C ≤ n && n ≤ 0x1E) || n == 0x85 || n == 0x2028 || n == 0x2029

/-- The width of the widest line of a text. -/
def widest (gs : List Glyph) : Nat :=
  ((Text.pieces (isLineBreak ·.char) gs).map Glyph.cells).foldl max 0

/-- The cells of the blanks at both sides of a column. -/
def padding : Nat := 2

/-- The cells of the box around and between two columns. -/
def boxCells : Nat := 3

/-- The width that a column asks for. -/
def Grid.columnWidth (room : Nat) (cells : List Printed) : Nat :=
  (cells.map fun c => min room (widest c.glyphs + padding)).foldl max 0

/-- Half of a number, rounded to the even neighbour of a half. -/
def halfToEven (n : Nat) : Nat :=
  if n % 4 = 3 then n / 2 + 1 else n / 2

/-- Two column widths made to fit: the wider one gives way down to the other, then both alike. -/
def shrink (room a b : Nat) : Nat × Nat :=
  if a + b ≤ room then (a, b)
  else
    let excess := a + b - room
    let a' := a - min excess (a - b)
    let b' := b - min excess (b - a)
    let left := a' + b' - room
    let fromFirst := min left (halfToEven left)
    (a' - fromFirst, b' - (left - fromFirst))

/-- The widths of the two columns on a console. -/
def Grid.widths (g : Grid) (columns : Nat) : Nat × Nat :=
  let room := columns - boxCells
  let first := g.header.1 :: g.rows.map Prod.fst
  let second := g.header.2 :: g.rows.map Prod.snd
  let (a, b) := (columnWidth room first, columnWidth room second)
  if a + b ≤ room then (a, b)
  else
    let (a, b) := shrink room a b
    (columnWidth a first, columnWidth b second)

/-- A rule of the box. -/
def rule (left line middle right : Char) (a b : Nat) : List Char :=
  left :: (List.replicate a line ++ middle :: (List.replicate b line ++ [right]))

/-- The lines of one cell, each filled up to the column's width. -/
def cellText (columnWidth : Nat) (cell : Printed) : List (List Char) :=
  (cell.lines (columnWidth - padding) .ellipsis).map fun l =>
    ' ' :: (Glyph.toChars (Glyph.fitDrawn (columnWidth - padding) l) ++ [' '])

/-- The lines of a row, as many as its higher cell has. -/
def rowLines (bar : Char) (a b : Nat) (row : Printed × Printed) : List (List Char) :=
  let left := cellText a row.1
  let right := cellText b row.2
  (List.range (max left.length right.length)).map fun i =>
    bar :: (left.getD i (List.replicate a ' ') ++
      bar :: (right.getD i (List.replicate b ' ') ++ [bar]))

/-- The lines of a table. -/
def Grid.lines (g : Grid) (columns : Nat) : List (List Char) :=
  let (a, b) := g.widths columns
  let room := a + b + boxCells
  (g.title.lines room .fold).map (fun l => Glyph.toChars (Glyph.fit room l)) ++
    rule '┏' '━' '┳' '┓' a b :: rowLines '┃' a b g.header ++
    rule '┡' '━' '╇' '┩' a b :: g.rows.flatMap (rowLines '│' a b) ++
    [rule '└' '─' '┴' '┘' a b]

/-- What is noticed when a table is drawn: the title first, then row by row. -/
def Grid.drawFault? (g : Grid) (columns : Nat) : Option MarkupFault :=
  let (a, b) := g.widths columns
  let ofCell (width : Nat) (cell : Printed) := cell.drawFault? (width - padding) .ellipsis
  g.title.drawFault? (a + b + boxCells) .fold <|>
    g.rows.findSome? fun (left, right) => ofCell a left <|> ofCell b right

end TableSketch.Console
