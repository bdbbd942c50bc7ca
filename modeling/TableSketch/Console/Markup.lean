import TableSketch.Console.Emoji
import TableSketch.Console.Glyph
import TableSketch.Console.Literal
import TableSketch.Console.Style

/-!
# Markup in printed text

Text for the console may hold style tags: `[bold]` opens a style, `[/bold]` closes
it, and `[/]` closes the one opened last. On a console without styles the tags
disappear, but they must make sense. A tag begins with a lower-case letter, `#`, `/`
or `@` behind the bracket; any other bracket stands for itself, and so does one behind
a backslash.

A closing tag must name a style that is open. The names are compared in the normal
form of styles, in which `b` and `bold` are the same. A tag with an equals sign has
parameters; they go to the style, or, when the name begins with `@`, they are the
arguments of an action and must be literals. Styles whose colours have parts that are
no numbers are noticed when their name is read, and otherwise when text is drawn in
them.
-/

namespace TableSketch.Console

/-- What is wrong with marked-up text. -/
inductive MarkupFault where
  /-- A closing tag closes nothing. -/
  | nothingToClose
  /-- The arguments of an action are no literals. -/
  | badArguments
  /-- A part of a colour has no digits or too many, so that it is no number. -/
  | noNumber (digits : Nat)
  deriving DecidableEq, Repr

/-- The wording of a fault, for those that are put into words. -/
def MarkupFault.message? : MarkupFault → Option String
  | .nothingToClose | .badArguments => none
  | .noNumber 0 => some "invalid literal for int() with base 10: ''"
  | .noNumber digits =>
    some ("Exceeds the limit (" ++ toString Style.maxDigits ++
      " digits) for integer string conversion: value has " ++ toString digits ++
      " digits; use sys.set_int_max_str_digits() to increase the limit")

/-- A piece of a marked-up text. -/
inductive MarkupPiece where
  /-- Text that is printed. -/
  | plain (cs : List Char)
  /-- A tag, without its brackets. -/
  | tag (cs : List Char)
  deriving DecidableEq, Repr

/-- Whether a character may be the first of a tag. -/
def isTagStart (c : Char) : Bool :=
  c.isLower || c == '#' || c == '/' || c == '@'

/-- The content of the tag in front of a text and what is behind it. -/
def readTag? (cs : List Char) : Option (List Char × List Char) :=
  match cs with
  | '[' :: c :: rest =>
    if isTagStart c then
      let inside := rest.takeWhile fun d => d != ']' && d != '['
      match rest.drop inside.length with
      | ']' :: after => some (c :: inside, after)
      | _ => none
    else none
  | _ => none

/-- Text with the brackets freed from the backslash in front of them. -/
def freeBrackets : List Char → List Char
  | '\\' :: '[' :: cs => '[' :: freeBrackets cs
  | c :: cs => c :: freeBrackets cs
  | [] => []

/-- The pieces of a text, whose length bounds their number. `pending` is the text read since the
last tag, last character first. Of the backslashes in front of a tag every second one is printed,
and an odd one makes the tag a text. -/
def piecesFrom (pending : List Char) : Nat → List Char → List MarkupPiece
  | _, [] => [.plain pending.reverse]
  | 0, _ => [.plain pending.reverse]
  | fuel + 1, c :: cs =>
    let slashes := ((c :: cs).takeWhile (· == '\\')).length
    match readTag? ((c :: cs).drop slashes) with
    | none => piecesFrom (c :: pending) fuel cs
    | some (tag, after) =>
      let before := [.plain pending.reverse, .plain (List.replicate (slashes / 2) '\\')]
      let now : MarkupPiece :=
        if slashes % 2 = 1 then .plain ('[' :: tag ++ [']']) else .tag tag
      before ++ now :: piecesFrom [] fuel after

/-- The pieces of a text. -/
def markupPieces (cs : List Char) : List MarkupPiece :=
  piecesFrom [] cs.length cs

/-- Controls that are never printed: bell, backspace, the vertical feeds and carriage return. -/
def isDropped (c : Char) : Bool :=
  let n := c.toNat
  n == 7 || n == 8 || n == 11 || n == 12 || n == 13

/-- The printed form of text between tags. -/
def printedChars (cs : List Char) : List Char :=
  (Emoji.replace (freeBrackets cs)).filter (!isDropped ·)

/-- A tag that has been opened: the number of glyphs in front of it, its name in normal form, and
its parameters. -/
structure OpenTag where
  start : Nat
  name : String
  parameters : Option (List Char)
  deriving DecidableEq, Repr

namespace OpenTag

/-- Whether a tag names an action. -/
def isAction (t : OpenTag) : Bool :=
  t.name.toList.head? == some '@'

/-- The arguments of an action. In front of arguments in brackets the action may have a name of its
own, which may also stand alone. -/
def arguments (parameters : List Char) : List Char :=
  let parameters := Text.trim parameters
  let isName := fun c => Text.isLetterOrDigit c || c == '.'
  match parameters.dropWhile isName with
  | [] => ['(', ')']
  | '(' :: rest =>
    if rest.getLast? == some ')' && !rest.contains '\n' then '(' :: rest else parameters
  | _ => parameters

/-- Whether a tag can be closed: the arguments of an action must be literals. -/
def isSound (t : OpenTag) : Bool :=
  match t.isAction, t.parameters with
  | true, some (c :: cs) => Literal.accepts (arguments (c :: cs))
  | _, _ => true

/-- The description of the style of a tag. -/
def style (t : OpenTag) : List Char :=
  t.name.toList ++ (t.parameters.map (' ' :: ·)).getD []

end OpenTag

/-- A stretch of text in a style that cannot be drawn, because a part of its colour has no digits or
too many. -/
structure BadSpan where
  start : Nat
  stop : Nat
  digits : Nat
  deriving DecidableEq, Repr

/-- The span of a tag that is closed, if its style cannot be drawn. -/
def OpenTag.badSpan? (t : OpenTag) (stop : Nat) : Option BadSpan :=
  match Style.ofText t.style with
  | .error (.noNumber digits) => some ⟨t.start, stop, digits⟩
  | _ => none

/-- Printed text, with the stretches of it that cannot be drawn. -/
structure Printed where
  glyphs : List Glyph := []
  badSpans : List BadSpan := []
  deriving DecidableEq, Repr

/-- Printed text as far as it has been read, and the tags that are open, the last one first. -/
structure MarkupState extends Printed where
  isOpen : List OpenTag := []
  /-- Whether a tag stands behind the last glyph. -/
  atEdge : Bool := false
  deriving DecidableEq, Repr

namespace MarkupState

/-- Text behind what has been read. -/
def addText (s : MarkupState) (cs : List Char) : MarkupState :=
  match Glyph.ofChars (printedChars cs) with
  | [] => s
  | g :: gs => { s with glyphs := s.glyphs ++ { g with edge := s.atEdge } :: gs, atEdge := false }

/-- A tag that is opened. -/
def openTag (s : MarkupState) (name : List Char) (parameters : Option (List Char)) :
    Except MarkupFault MarkupState :=
  match Style.normalText name with
  | .ok name =>
    .ok { s with isOpen := ⟨s.glyphs.length, name, parameters⟩ :: s.isOpen, atEdge := true }
  | .error digits => .error (.noNumber digits)

/-- The open tag that a closing one names; without a name it is the last one. -/
def closedBy (s : MarkupState) (name : List Char) : Except MarkupFault OpenTag :=
  let found : Except MarkupFault (Option OpenTag) :=
    match Text.trim name with
    | [] => .ok s.isOpen.head?
    | name =>
      match Style.normalText name with
      | .ok name => .ok (s.isOpen.find? (·.name == name))
      | .error digits => .error (.noNumber digits)
  match found with
  | .ok (some t) => .ok t
  | .ok none => .error .nothingToClose
  | .error f => .error f

/-- A tag that is closed. -/
def closeTag (s : MarkupState) (name : List Char) : Except MarkupFault MarkupState :=
  match s.closedBy name with
  | .error f => .error f
  | .ok t =>
    if !t.isSound then .error .badArguments
    else
      let spans := if t.isAction then [] else (t.badSpan? s.glyphs.length).toList
      .ok { s with isOpen := s.isOpen.erase t, atEdge := true, badSpans := s.badSpans ++ spans }

/-- A tag. -/
def addTag (s : MarkupState) (tag : List Char) : Except MarkupFault MarkupState :=
  let name := tag.takeWhile (· != '=')
  match name with
  | '/' :: name => s.closeTag name
  | name => s.openTag name (tag.drop name.length).tail?

/-- The text with all tags closed that are still open. -/
def finish (s : MarkupState) : Printed :=
  { s.toPrinted with
    badSpans := s.badSpans ++ s.isOpen.filterMap (·.badSpan? s.glyphs.length) }

end MarkupState

/-- Reads pieces. -/
def printPieces (s : MarkupState) : List MarkupPiece → Except MarkupFault Printed
  | [] => .ok s.finish
  | .plain cs :: rest => printPieces (s.addText cs) rest
  | .tag cs :: rest =>
    match s.addTag cs with
    | .ok s => printPieces s rest
    | .error f => .error f

/-- The printed text for marked-up text. -/
def printed (s : String) : Except MarkupFault Printed :=
  printPieces {} (markupPieces s.toList)

namespace Printed

/-- Text without markup. -/
def ofChars (cs : List Char) : Printed :=
  { glyphs := Glyph.ofChars cs }

end Printed

end TableSketch.Console
