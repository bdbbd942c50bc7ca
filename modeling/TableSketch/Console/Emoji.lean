import TableSketch.Console.EmojiTable
import TableSketch.Text.Blank
import TableSketch.Text.Case
import TableSketch.Text.Pieces

/-!
# Emoji in printed text

A name between two colons stands for an emoji. The name may end in `-text` or
`-emoji`, which adds the selector for the way in which the emoji is drawn. A name
that is not known stays, with both of its colons.
-/

namespace TableSketch.Console.Emoji

/-- The value of a hexadecimal digit. -/
def hexDigit (c : Char) : Nat :=
  if c.isDigit then c.toNat - '0'.toNat else c.toNat - 'A'.toNat + 10

/-- The characters that hexadecimal code points with dashes between them stand for. -/
def charsOf (codes : List Char) : List Char :=
  (Text.pieces (· == '-') codes).map fun digits =>
    Char.ofNat (digits.foldl (fun n d => n * 16 + hexDigit d) 0)

/-- The entries of a line of the table. -/
def entriesOf (line : String) : List (List Char × List Char) :=
  (Text.pieces (· == ' ') line.toList).map fun entry =>
    (entry.takeWhile (· != '='), charsOf ((entry.dropWhile (· != '=')).drop 1))

/-- The emoji by their names. -/
def table : List (List Char × List Char) :=
  emojiLines.flatMap entriesOf

/-- The selectors for the ways in which an emoji is drawn, by the ends of names. -/
def selectors : List (List Char × Char) :=
  [("-emoji".toList, '\ufe0f'), ("-text".toList, '\ufe0e')]

/-- The emoji of a name, which may be written in any case. -/
def named? (name : List Char) : Option (List Char) :=
  table.lookup (Text.lower (String.ofList name)).toList

/-- What stands between two colons is replaced by this, if by anything. -/
def lookup? (body : List Char) : Option (List Char) :=
  match selectors.find? (·.1.isSuffixOf body) with
  | some (ending, selector) =>
    (named? (body.take (body.length - ending.length))).map (· ++ [selector])
  | none => named? body

/-- Replaces the names in a text, whose length bounds their number. -/
def replaceFrom : Nat → List Char → List Char
  | 0, cs => cs
  | _, [] => []
  | fuel + 1, ':' :: cs =>
    let body := cs.takeWhile fun c => c != ':' && !Text.isBlank c
    match cs.drop body.length with
    | ':' :: after => (lookup? body).getD (':' :: body ++ [':']) ++ replaceFrom fuel after
    | _ => ':' :: replaceFrom fuel cs
  | fuel + 1, c :: cs => c :: replaceFrom fuel cs

/-- A text with the names of emoji replaced. -/
def replace (cs : List Char) : List Char :=
  replaceFrom cs.length cs

end TableSketch.Console.Emoji
