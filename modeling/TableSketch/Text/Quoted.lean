import TableSketch.Text.PrintableTable

/-!
# Quoted text

Messages show a name between quotation marks, so that its ends and its odd
characters can be seen. The marks are single ones unless the text holds a single
and no double one. The backslash, the mark itself, line feed, carriage return and
tab are escaped by a backslash, every other character without a printed form by
its code point in two, four or eight hexadecimal digits.
-/

namespace TableSketch.Text

/-- The digits of a number in a base up to 16, at least `width` of them. -/
def paddedDigits (base width n : Nat) : List Char :=
  let digits := Nat.toDigits base n
  List.replicate (width - digits.length) '0' ++ digits

/-- The form of one character between quotation marks. -/
def quotedChar (mark c : Char) : List Char :=
  if c == mark || c == '\\' then ['\\', c]
  else if c == '\n' then ['\\', 'n']
  else if c == '\r' then ['\\', 'r']
  else if c == '\t' then ['\\', 't']
  else if isPrinted c then [c]
  else if c.toNat < 0x100 then '\\' :: 'x' :: paddedDigits 16 2 c.toNat
  else if c.toNat < 0x10000 then '\\' :: 'u' :: paddedDigits 16 4 c.toNat
  else '\\' :: 'U' :: paddedDigits 16 8 c.toNat

/-- The mark that a text is quoted with. -/
def quotationMark (cs : List Char) : Char :=
  if cs.contains '\'' && !cs.contains '"' then '"' else '\''

/-- A text between quotation marks. -/
def quoted (s : String) : String :=
  let mark := quotationMark s.toList
  String.ofList (mark :: (s.toList.flatMap (quotedChar mark) ++ [mark]))

end TableSketch.Text
