import TableSketch.Console.ColorNames
import TableSketch.Text.Blank
import TableSketch.Text.Case
import TableSketch.Text.Pieces
import TableSketch.Text.WordTable

/-!
# Styles

The words that describe how text is drawn: attributes such as `bold` or `not italic`,
a colour, `on` and the colour behind the text, and `link` and a target. The console
has no styles to show, but two descriptions of one style have to be known as such, so
a style has a normal form, `Style.text`. What is no description of a style keeps its
text, in lower case.

A colour is named, or given as `#rrggbb`, `color(n)` or `rgb(r,g,b)`. The parts of the
last form may be digits of any script, and only a part that is not a number at all is a
fault of its own.
-/

namespace TableSketch.Console

/-- Why a text does not describe a style. -/
inductive StyleFault where
  /-- A word does not belong there, or one is missing. -/
  | unknown
  /-- A part of a colour has no digits or too many, so that it is no number. -/
  | noNumber (digits : Nat)
  deriving DecidableEq, Repr

/-- The attributes, in the order of the normal form. -/
def attributeNames : List String :=
  ["bold", "dim", "italic", "underline", "blink", "blink2", "reverse", "conceal", "strike",
    "underline2", "frame", "encircle", "overline"]

/-- The abbreviations of attributes. -/
def attributeLetters : List (String × String) :=
  [("b", "bold"), ("d", "dim"), ("i", "italic"), ("u", "underline"), ("r", "reverse"),
    ("c", "conceal"), ("s", "strike"), ("uu", "underline2"), ("o", "overline")]

/-- The attribute of a word. -/
def attribute? (word : String) : Option String :=
  if attributeNames.contains word then some word else attributeLetters.lookup word

/-- A style. What was said last stands first among the attributes. -/
structure Style where
  attributes : List (String × Bool) := []
  color : Option String := none
  background : Option String := none
  link : Option String := none
  deriving DecidableEq, Repr

namespace Style

/-- The normal form of a style. -/
def text (s : Style) : String :=
  let attributes := attributeNames.filterMap fun a =>
    (s.attributes.lookup a).map fun isOn => if isOn then a else "not " ++ a
  let words := attributes ++ s.color.toList ++ (s.background.map ("on " ++ ·)).toList ++
    (s.link.map ("link " ++ ·)).toList
  if words.isEmpty then "none" else " ".intercalate words

/-- The most digits of a number. -/
def maxDigits : Nat := 4300

/-- The most that a part of a colour can be. -/
def maxLevel : Nat := 255

/-- Reads digits as a number. -/
def readLevel (ds : List Char) : Except StyleFault Nat :=
  if ds.isEmpty || maxDigits < ds.length then .error (.noNumber ds.length)
  else .ok (ds.foldl (fun n d => n * 10 + (Text.digitValue? d).getD 0) 0)

/-- What stands between a word with an opening bracket and a closing bracket at the end. -/
def argument? (word text : List Char) : Option (List Char) :=
  if word.isPrefixOf text && text.getLast? == some ')' then
    some (text.drop word.length).dropLast
  else none

/-- Whether a text is a digit of hexadecimal numbers in lower case. -/
def isHexDigit (c : Char) : Bool :=
  c.isDigit || ('a' ≤ c && c ≤ 'f')

/-- Checks that all parts of a colour are in range. -/
def checkLevels (levels : List Nat) : Except StyleFault Unit :=
  if levels.all (· ≤ maxLevel) then .ok () else .error .unknown

/-- Checks that a text in lower case is a colour. -/
def checkColor (color : List Char) : Except StyleFault Unit :=
  if color == "default".toList || colorNames.contains (String.ofList color) then .ok ()
  else if color.head? == some '#' then
    if color.length = 7 && color.tail.all isHexDigit then .ok () else .error .unknown
  else
    match argument? "color(".toList color, argument? "rgb(".toList color with
    | some n, _ =>
      if !n.isEmpty && n.length ≤ 3 && n.all Char.isDigit then
        do checkLevels [← readLevel n]
      else .error .unknown
    | none, some parts =>
      if parts.isEmpty || !parts.all fun c => c == ',' || (Text.digitValue? c).isSome then
        .error .unknown
      else
        match Text.pieces (· == ',') parts with
        | [r, g, b] => do checkLevels [← readLevel r, ← readLevel g, ← readLevel b]
        | _ => .error .unknown
    | none, none => .error .unknown

/-- Reads the words of a description, behind those that say `s`. -/
def read (s : Style) : List String → Except StyleFault Style
  | [] => .ok s
  | word :: rest =>
    let lower := Text.lower word
    if lower == "on" then
      match rest with
      | [] => .error .unknown
      | color :: rest =>
        match checkColor (Text.lower color).toList with
        | .ok () => read { s with background := some (Text.lower color) } rest
        | .error f => .error f
    else if lower == "not" then
      match rest with
      | [] => .error .unknown
      | word :: rest =>
        match attribute? word with
        | some a => read { s with attributes := (a, false) :: s.attributes } rest
        | none => .error .unknown
    else if lower == "link" then
      match rest with
      | [] => .error .unknown
      | target :: rest => read { s with link := some target } rest
    else
      match attribute? lower with
      | some a => read { s with attributes := (a, true) :: s.attributes } rest
      | none =>
        match checkColor lower.toList with
        | .ok () => read { s with color := some lower } rest
        | .error f => .error f

/-- The words of a text. -/
def wordsOf (cs : List Char) : List String :=
  ((Text.pieces Text.isBlank cs).filter (!·.isEmpty)).map String.ofList

/-- The style that a text describes; the word `none` describes the one without any trait. -/
def ofText (cs : List Char) : Except StyleFault Style :=
  if Text.trim cs == "none".toList then .ok {} else read {} (wordsOf cs)

/-- The normal form of a description of a style, or of a text that is none. It fails only if a part
of a colour is no number, with the number of its digits. -/
def normalText (cs : List Char) : Except Nat String :=
  match ofText cs with
  | .ok s => .ok s.text
  | .error .unknown => .ok (Text.lower (String.ofList (Text.trim cs)))
  | .error (.noNumber digits) => .error digits

end Style

end TableSketch.Console
