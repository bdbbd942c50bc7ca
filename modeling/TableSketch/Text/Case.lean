import TableSketch.Text.CaseTable
import TableSketch.Text.CasedTable

/-!
# Upper and lower case

`upper` writes every character in its full upper-case form, which may be several
characters (`ß` becomes `SS`). `lower` is used to compare names and file suffixes;
every character has one lower-case form, except for the capital sigma, which has
another one at the end of a word.
-/

namespace TableSketch.Text

/-- The upper-case form of a character. -/
def upperChar (c : Char) : List Char :=
  let n := c.toNat
  if n < 0x80 then [c.toUpper]
  else
    match upperExpansions.find? (·.1 == n) with
    | some (_, image) => image.map Char.ofNat
    | none =>
      match upperRuns.find? (·.covers n) with
      | some r => [Char.ofNat (r.image n)]
      | none => [c]

/-- The upper-case form of a text. -/
def upper (s : String) : String :=
  String.ofList (s.toList.flatMap upperChar)

/-- The lower-case form of a character on its own. -/
def lowerChar (c : Char) : List Char :=
  let n := c.toNat
  if n < 0x80 then [c.toLower]
  else if n == 0x130 then [Char.ofNat 0x69, Char.ofNat 0x307]
  else
    match lowerRuns.find? (·.covers n) with
    | some r => [Char.ofNat (r.image n)]
    | none => [c]

/-- Whether a text goes on with a letter of the word in front of it. -/
def goesOn (cs : List Char) : Bool :=
  (cs.dropWhile isCaseIgnorable).head?.any isCased

/-- The lower-case form of a text; `inWord` tells whether it stands behind a letter of a word. -/
def lowerFrom (inWord : Bool) : List Char → List Char
  | [] => []
  | c :: cs =>
    let form :=
      if c.toNat == 0x3A3 && inWord && !goesOn cs then [Char.ofNat 0x3C2] else lowerChar c
    form ++ lowerFrom (if isCaseIgnorable c then inWord else isCased c) cs

/-- The lower-case form of a text. -/
def lower (s : String) : String :=
  String.ofList (lowerFrom false s.toList)

theorem toList_upper (s : String) : (upper s).toList = s.toList.flatMap upperChar := by
  simp [upper]

end TableSketch.Text
