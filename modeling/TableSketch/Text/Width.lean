import TableSketch.Text.WidthTable

/-!
# Widths on a character grid

How many cells a text takes on a fixed-width display. Most characters count on their
own, by `charWidth`. Two characters change how their neighbours are drawn: a joiner
draws the character behind it together with the one in front of it, and a selector
draws a symbol in front of it as an emoji, on two cells.
-/

namespace TableSketch.Text

/-- Whether a character is in one of the ranges. -/
def isWithin (ranges : List (Nat × Nat)) (c : Char) : Bool :=
  ranges.any fun r => r.1 ≤ c.toNat && c.toNat ≤ r.2

/-- The number of cells of a character on its own. -/
def charWidth (c : Char) : Nat :=
  if ' ' ≤ c ∧ c ≤ '~' then 1
  else if isWithin zeroWidthRanges c then 0
  else if isWithin doubleWidthRanges c then 2
  else 1

/-- Whether a character is a symbol that can be drawn as an emoji. -/
def isEmojiSymbol (c : Char) : Bool :=
  isWithin emojiSymbolRanges c

/-- The zero-width joiner. -/
def joiner : Char := '\u200d'

/-- The variation selector that asks for an emoji. -/
def emojiSelector : Char := '\ufe0f'

/-- The number of cells of a text; `last` is the character in front of it that takes a cell and can
still be changed. -/
def widthFrom (last : Option Char) : List Char → Nat
  | [] => 0
  | c :: cs =>
    if c = joiner then
      match cs with
      | [] => 0
      | _ :: rest => widthFrom last rest
    else if c = emojiSelector then
      (if last.any isEmojiSymbol then 1 else 0) + widthFrom none cs
    else if charWidth c = 0 then widthFrom last cs
    else charWidth c + widthFrom (some c) cs

/-- The number of cells of a text. -/
def width (cs : List Char) : Nat :=
  widthFrom none cs

end TableSketch.Text
