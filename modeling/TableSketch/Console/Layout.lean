import TableSketch.Console.Markup
import TableSketch.Console.Wrap

/-!
# Printed text in lines

Printed text is set in lines, and then each line is cut to fit. A style that cannot be
drawn is noticed only now, and only if something of its text is left after the cut.
-/

namespace TableSketch.Console.Printed

/-- The lines of printed text on the given number of cells. -/
def lines (room : Nat) (overflow : Overflow) (p : Printed) : List (List Glyph) :=
  wrap room overflow p.glyphs

/-- Whether a span reaches into a line, of which the glyphs behind the number `kept` are cut off. -/
def reaches (kept : Nat) (line : List Glyph) (b : BadSpan) : Bool :=
  (line.take kept).any fun g => b.start ≤ g.place && g.place < b.stop

/-- Whether a span is seen in a text that is set in these lines. A span without any text is seen on
a single line without tabs, if the line is not cut off in front of it. -/
def shows (room : Nat) (overflow : Overflow) (p : Printed) (broken : List (List Glyph))
    (b : BadSpan) : Bool :=
  let kept (line : List Glyph) := (cutLine room overflow line).length
  match broken with
  | [line] =>
    if p.glyphs.any (·.char == '\t') then reaches (kept line) line b
    else kept line = line.length || b.start < kept line
  | broken => broken.any fun line => reaches (kept line) line b

/-- What is noticed when the text is drawn: of the spans that are seen, the one that begins first,
and among those the one that was closed last. -/
def drawFault? (room : Nat) (overflow : Overflow) (p : Printed) : Option MarkupFault :=
  let broken := breakLines room overflow (Glyph.number p.glyphs)
  let seen := p.badSpans.reverse.filter (p.shows room overflow broken)
  (seen.mergeSort (·.start ≤ ·.start)).head?.map fun b => .noNumber b.digits

/-- Where all styles can be drawn, nothing is noticed. -/
theorem drawFault?_eq_none {p : Printed} (h : p.badSpans = []) (room : Nat) (overflow : Overflow) :
    p.drawFault? room overflow = none := by
  simp [drawFault?, h]

end TableSketch.Console.Printed
