import TableSketch.Console.Glyph
import TableSketch.Text.Pieces

/-!
# Breaking lines

Text is set in lines of a given number of cells. Lines are broken between words; a
word that is wider than a whole line is folded over several lines, or it stands on
a line of its own and is cut off there, with an ellipsis as its last character.
Neither separates the characters of a cluster.
-/

namespace TableSketch.Console

open Glyph (cells isBlank)

/-- What becomes of text that is too wide. -/
inductive Overflow where
  | fold
  | ellipsis
  deriving DecidableEq, Repr

/-- The distance of tab stops. -/
def tabSize : Nat := 8

/-- A line with its tabs replaced by blanks up to the next stop. `column` is the last stop and
`part` the text behind it, last glyph first. -/
def expandTabsFrom (column : Nat) (part : List Glyph) : List Glyph → List Glyph
  | [] => part.reverse
  | g :: gs =>
    if g.char = '\t' then
      let part := ({ g with char := ' ' } :: part).reverse
      let here := column + cells part
      let more := (tabSize - here % tabSize) % tabSize
      let filling : Glyph := { char := ' ', place := g.place }
      part ++ List.replicate more filling ++ expandTabsFrom (here + more) [] gs
    else expandTabsFrom column (g :: part) gs

/-- A line with its tabs replaced by blanks. -/
def expandTabs (line : List Glyph) : List Glyph :=
  expandTabsFrom 0 [] line

/-- The word in front of a text with the blanks around it, and what follows. -/
def nextWord (gs : List Glyph) : List Glyph × List Glyph :=
  let lead := gs.takeWhile isBlank
  let gs := gs.dropWhile isBlank
  let core := gs.takeWhile (!isBlank ·)
  let gs := gs.dropWhile (!isBlank ·)
  (lead ++ core ++ gs.takeWhile isBlank, gs.dropWhile isBlank)

/-- The words of a text, whose length bounds their number. Blanks go with the word in front of
them, those in front of all words with the first one; a text of blanks has no words. -/
def wordsFrom : Nat → List Glyph → List (List Glyph)
  | 0, _ => []
  | fuel + 1, gs =>
    if gs.all isBlank then []
    else
      let (w, rest) := nextWord gs
      w :: wordsFrom fuel rest

/-- A word cut into chunks that fit into a line. -/
def chop (room : Nat) (current : List Glyph) (used : Nat) :
    List (Text.Cluster Glyph) → List (List Glyph)
  | [] => [current]
  | c :: cs =>
    if used + c.cells > room then current :: chop room c.items c.cells cs
    else chop room (current ++ c.items) (used + c.cells) cs

/-- Lines that are being filled: the finished ones, the current one, and the cells it takes. -/
structure LineFill where
  done : List (List Glyph) := []
  current : List Glyph := []
  used : Nat := 0
  deriving DecidableEq, Repr

/-- Starts a new line with a text. In front of the whole text there is no line to end. -/
def LineFill.breakLine (s : LineFill) (gs : List Glyph) : LineFill :=
  let done := if s.current.isEmpty && s.done.isEmpty then [] else s.done ++ [s.current]
  ⟨done, gs, cells gs⟩

/-- Sets a word. -/
def LineFill.addWord (room : Nat) (overflow : Overflow) (s : LineFill) (word : List Glyph) :
    LineFill :=
  let needed := cells (Glyph.trimRight word)
  if s.used + needed ≤ room then ⟨s.done, s.current ++ word, s.used + cells word⟩
  else if room < needed then
    match overflow with
    | .fold => (chop room [] 0 (Text.clusters Glyph.char word)).foldl LineFill.breakLine s
    | .ellipsis => s.breakLine word
  else if s.used = 0 then { s with current := s.current ++ word }
  else s.breakLine word

/-- The lines of a text without line feeds. -/
def breakText (room : Nat) (overflow : Overflow) (gs : List Glyph) : List (List Glyph) :=
  let words := wordsFrom (gs.length + 1) gs
  if words.isEmpty then [gs]
  else
    let s := words.foldl (LineFill.addWord room overflow) {}
    s.done ++ [s.current]

/-- A line without as many blanks at its end as it has glyphs more than cells. -/
def cropBlanks (room : Nat) (line : List Glyph) : List Glyph :=
  let blanks := (line.reverse.takeWhile isBlank).length
  line.take (line.length - min blanks (line.length - room))

/-- A line cut to the given number of cells. -/
def truncate (room : Nat) (overflow : Overflow) (line : List Glyph) : List Glyph :=
  if cells line ≤ room then line
  else
    match overflow with
    | .fold => Glyph.takeCells room line
    | .ellipsis => Glyph.takeCells (room - 1) line ++ Glyph.ofChars ['…']

/-- The lines of a text before they are cut to fit. -/
def breakLines (room : Nat) (overflow : Overflow) (gs : List Glyph) : List (List Glyph) :=
  (Text.pieces (·.char == '\n') gs).flatMap fun line => breakText room overflow (expandTabs line)

/-- A line cut to fit. -/
def cutLine (room : Nat) (overflow : Overflow) (line : List Glyph) : List Glyph :=
  truncate room overflow (cropBlanks room line)

/-- The lines of a text on the given number of cells. -/
def wrap (room : Nat) (overflow : Overflow) (gs : List Glyph) : List (List Glyph) :=
  (breakLines room overflow gs).map (cutLine room overflow)

end TableSketch.Console
