import TableSketch.Number.Binary64
import TableSketch.Text.Blank
import TableSketch.Validation

/-!
# Numbers in configuration values

Configuration values are texts, and numbers in them are read leniently. Blanks
around a number do not count, single underscores may stand between its digits, a
sign and zeros in front are allowed, and a whole number may carry a fraction of
zeros. Only ASCII digits are digits.

Numbers with a fraction may also have an exponent, or be the words `inf`, `infinity`
and `nan` in any case; they are rounded to the double format.
-/

namespace TableSketch.Lenient

/-- The blanks around numbers: those of running text without the information separators. -/
def isSpace (c : Char) : Bool :=
  Text.isBlank c && !(0x1C ≤ c.toNat && c.toNat ≤ 0x1F)

/-- Drops the blanks around a number. -/
def strip (cs : List Char) : List Char :=
  ((cs.dropWhile isSpace).reverse.dropWhile isSpace).reverse

/-- The value of decimal digits. -/
def digitsValue (ds : List Char) : Nat :=
  ds.foldl (fun n d => n * 10 + (d.toNat - '0'.toNat)) 0

/-- Whether two underscores stand side by side. -/
def hasDoubleUnderscore : List Char → Bool
  | '_' :: '_' :: _ => true
  | _ :: cs => hasDoubleUnderscore cs
  | [] => false

/-- The text without its underscores, if there are any and they all stand alone and inside. -/
def dropUnderscores? (cs : List Char) : Option (List Char) :=
  if cs.head? == some '_' || cs.getLast? == some '_' || !cs.contains '_' ||
      hasDoubleUnderscore cs then none
  else some (cs.filter (· != '_'))

/-! ## Whole numbers -/

/-- The most characters of a whole number that is read, its sign being one of them. -/
def maxLength : Nat := 4300

/-- Reads a whole number in its plain form: perhaps a minus sign, and digits without a zero in
front. A number that is too long is found out before what stands behind it is looked at. -/
def readPlain (cs : List Char) : Except Fault Int :=
  let (negative, rest) := match cs with
    | '-' :: rest => (true, rest)
    | rest => (false, rest)
  let ds := rest.takeWhile Char.isDigit
  if ds.isEmpty || (ds.length > 1 && ds.head? == some '0') then .error .unreadableInt
  else if cs.length - rest.length + ds.length > maxLength then .error .oversizedInt
  else if ds.length < rest.length then .error .unreadableInt
  else
    let n : Int := digitsValue ds
    .ok (if negative then -n else n)

/-- Drops the zeros in front of a number, and the underscores between them. The last zero stays
when it is all that there is in front of the point or of the end. A minus sign ends the zeros as
a digit does. -/
def dropLeadingZeros? (cs : List Char) : Option (List Char) :=
  let isStart (c : Char) : Bool := (c.isDigit && c != '0') || c == '-'
  match cs with
  | '0' :: rest =>
    let skipped := rest.takeWhile fun c => c == '0' || c == '_'
    let last := ('0' :: skipped).getLast?.getD '0'
    match rest.drop skipped.length with
    | [] => some [last]
    | '.' :: r => some (last :: '.' :: r)
    | c :: r => if isStart c then some (c :: r) else none
  | c :: _ => if isStart c then some cs else none
  | [] => none

/-- Drops a fraction of zeros, of which there is at least one. -/
def dropZeroFraction (cs : List Char) : List Char :=
  match cs.dropWhile (· != '.') with
  | [] | [_] => cs
  | _ :: fraction => if fraction.all (· == '0') then cs.takeWhile (· != '.') else cs

/-- The plain form of a whole number. A minus sign in front is put aside and comes back last. -/
def plain? (cs : List Char) : Option (List Char) := do
  let (sign, cs) ← match strip cs with
    | '+' :: '-' :: _ => none
    | '+' :: cs => some ([], cs)
    | '-' :: cs => some (['-'], cs)
    | cs => some ([], cs)
  let cs := dropZeroFraction (← dropLeadingZeros? cs)
  some (sign ++ (dropUnderscores? cs).getD cs)

/-- Reads a whole number. Only of a text that is in its plain form from the start it is told that
it is too long. -/
def readInt (s : String) : Except Fault Int :=
  match readPlain s.toList with
  | .error .unreadableInt =>
    match (plain? s.toList).map readPlain with
    | some (.ok i) => .ok i
    | _ => .error .unreadableInt
  | r => r

/-! ## Numbers -/

/-- Reads the digits of a number and its exponent, without a sign. -/
def readUnsigned? (negative : Bool) (cs : List Char) : Option Binary64 := do
  let whole := cs.takeWhile Char.isDigit
  let cs := cs.dropWhile Char.isDigit
  let (fraction, cs) := match cs with
    | '.' :: r => (r.takeWhile Char.isDigit, r.dropWhile Char.isDigit)
    | cs => ([], cs)
  if whole.isEmpty && fraction.isEmpty then none
  let scale : Int ← match cs with
    | [] => some 0
    | e :: r =>
      if e == 'e' || e == 'E' then
        let (below, ds) := match r with
          | '-' :: ds => (true, ds)
          | '+' :: ds => (false, ds)
          | ds => (false, ds)
        if ds.isEmpty || !ds.all Char.isDigit then none
        else
          let n : Int := digitsValue ds
          some (if below then -n else n)
      else none
  some (Binary64.ofDecimal negative (digitsValue (whole ++ fraction)) (scale - fraction.length))

/-- Reads a number in its plain form. -/
def readPlainNumber? (cs : List Char) : Option Binary64 :=
  let (negative, cs) := match cs with
    | '-' :: cs => (true, cs)
    | '+' :: cs => (false, cs)
    | cs => (false, cs)
  let word := String.ofList (cs.map Char.toLower)
  if word == "inf" || word == "infinity" then some (.infinite negative)
  else if word == "nan" then some .nan
  else readUnsigned? negative cs

/-- Reads a number. Underscores are only looked for in a text that is no number otherwise, and
then there may be no blanks around it. -/
def readNumber (s : String) : Except Fault Binary64 :=
  match readPlainNumber? (strip s.toList) with
  | some x => .ok x
  | none =>
    match (dropUnderscores? s.toList).bind readPlainNumber? with
    | some x => .ok x
    | none => .error .unreadableNumber

end TableSketch.Lenient
