import TableSketch.Json.Basic

/-!
# Reading JSON

`Json.read?` reads the text of one value with blanks around it. Beside the values of
the format the words `Infinity`, `-Infinity` and `NaN` are read as numbers. Arrays
and objects call for a bound on the depth of the reading, which is the length of the
text: every call reads at least one character.
-/

namespace TableSketch.Json

/-- Drops the blanks between the marks of a JSON text. -/
def skipBlanks (cs : List Char) : List Char :=
  cs.dropWhile fun c => c == ' ' || c == '\n' || c == '\r' || c == '\t'

/-- The value of a hexadecimal digit. -/
def hexValue? (c : Char) : Option Nat :=
  if '0' ≤ c ∧ c ≤ '9' then some (c.toNat - '0'.toNat)
  else if 'a' ≤ c ∧ c ≤ 'f' then some (c.toNat - 'a'.toNat + 10)
  else if 'A' ≤ c ∧ c ≤ 'F' then some (c.toNat - 'A'.toNat + 10)
  else none

/-- The value of four hexadecimal digits. -/
def hex4? (a b c d : Char) : Option Nat := do
  let a ← hexValue? a
  let b ← hexValue? b
  let c ← hexValue? c
  let d ← hexValue? d
  some (((a * 16 + b) * 16 + c) * 16 + d)

/-- The character behind the backslash of a short escape. -/
def shortEscape? (c : Char) : Option Char :=
  match c with
  | '"' => some '"'
  | '\\' => some '\\'
  | '/' => some '/'
  | 'b' => some '\x08'
  | 'f' => some '\x0c'
  | 'n' => some '\n'
  | 'r' => some '\r'
  | 't' => some '\t'
  | _ => none

/-- The character of two escapes that stand for the halves of one code point. -/
def joinHalves (high low : Nat) : Char :=
  Char.ofNat (0x10000 + (high - 0xD800) * 0x400 + (low - 0xDC00))

/-- Reads a string behind its opening mark, up to and with the closing one. -/
def readString : List Char → Option (List Char × List Char)
  | '"' :: rest => some ([], rest)
  | '\\' :: 'u' :: a :: b :: c :: d :: '\\' :: 'u' :: e :: f :: g :: h :: rest =>
    match hex4? a b c d, hex4? e f g h with
    | some high, some low =>
      if 0xD800 ≤ high ∧ high < 0xDC00 ∧ 0xDC00 ≤ low ∧ low < 0xE000 then
        (readString rest).map fun (s, r) => (joinHalves high low :: s, r)
      else if high.isValidChar then
        (readString ('\\' :: 'u' :: e :: f :: g :: h :: rest)).map fun (s, r) =>
          (Char.ofNat high :: s, r)
      else none
    | _, _ => none
  | '\\' :: 'u' :: a :: b :: c :: d :: rest =>
    match hex4? a b c d with
    | some n =>
      if n.isValidChar then (readString rest).map fun (s, r) => (Char.ofNat n :: s, r) else none
    | none => none
  | '\\' :: c :: rest =>
    match shortEscape? c with
    | some d => (readString rest).map fun (s, r) => (d :: s, r)
    | none => none
  | c :: rest => if c.toNat < 0x20 then none else (readString rest).map fun (s, r) => (c :: s, r)
  | [] => none

/-- The value of decimal digits. -/
def digitsValue (ds : List Char) : Nat :=
  ds.foldl (fun n d => n * 10 + (d.toNat - '0'.toNat)) 0

/-- Reads the digits in front. -/
def readDigits (cs : List Char) : List Char × List Char :=
  (cs.takeWhile Char.isDigit, cs.dropWhile Char.isDigit)

/-- Reads the fraction of a number, if there is one. -/
def readFraction : List Char → Option (Option (List Char) × List Char)
  | '.' :: cs =>
    let (ds, rest) := readDigits cs
    if ds.isEmpty then none else some (some ds, rest)
  | cs => some (none, cs)

/-- Reads the exponent of a number, if there is one. -/
def readExponent (cs : List Char) : Option (Option Int × List Char) :=
  match cs with
  | 'e' :: r | 'E' :: r =>
    let (negative, r) :=
      match r with
      | '-' :: r => (true, r)
      | '+' :: r => (false, r)
      | r => (false, r)
    let (ds, rest) := readDigits r
    let n : Int := digitsValue ds
    if ds.isEmpty then none else some (some (if negative then -n else n), rest)
  | cs => some (none, cs)

/-- Reads a number. -/
def readNumber (cs : List Char) : Option (Json × List Char) := do
  let (negative, cs) := match cs with
    | '-' :: cs => (true, cs)
    | cs => (false, cs)
  let (whole, cs) := readDigits cs
  if whole.isEmpty || (whole.length > 1 && whole.head? == some '0') then none
  let (fraction, cs) ← readFraction cs
  let (exponent, cs) ← readExponent cs
  match fraction, exponent with
  | none, none =>
    let n : Int := digitsValue whole
    some (.int (if negative then -n else n), cs)
  | _, _ =>
    let ds := fraction.getD []
    let e := exponent.getD 0 - ds.length
    some (.real (Binary64.ofDecimal negative (digitsValue (whole ++ ds)) e), cs)

/-- Reads a number, which may be one of the words for numbers that are not finite. -/
def readAnyNumber (cs : List Char) : Option (Json × List Char) :=
  match cs with
  | 'I' :: 'n' :: 'f' :: 'i' :: 'n' :: 'i' :: 't' :: 'y' :: rest =>
    some (.real (.infinite false), rest)
  | '-' :: 'I' :: 'n' :: 'f' :: 'i' :: 'n' :: 'i' :: 't' :: 'y' :: rest =>
    some (.real (.infinite true), rest)
  | 'N' :: 'a' :: 'N' :: rest => some (.real .nan, rest)
  | cs => readNumber cs

mutual

/-- Reads a value, with the blanks in front of it. -/
def readValue : Nat → List Char → Option (Json × List Char)
  | 0, _ => none
  | fuel + 1, cs =>
    match skipBlanks cs with
    | 'n' :: 'u' :: 'l' :: 'l' :: rest => some (.null, rest)
    | 't' :: 'r' :: 'u' :: 'e' :: rest => some (.bool true, rest)
    | 'f' :: 'a' :: 'l' :: 's' :: 'e' :: rest => some (.bool false, rest)
    | '"' :: rest => (readString rest).map fun (s, r) => (.str (String.ofList s), r)
    | '[' :: rest =>
      match skipBlanks rest with
      | ']' :: rest => some (.arr [], rest)
      | _ => (readItems fuel rest).map fun (js, r) => (.arr js, r)
    | '{' :: rest =>
      match skipBlanks rest with
      | '}' :: rest => some (.obj [], rest)
      | _ => (readFields fuel rest).map fun (fs, r) => (.obj fs, r)
    | cs => readAnyNumber cs

/-- Reads the items of an array, up to and with its closing bracket. -/
def readItems : Nat → List Char → Option (List Json × List Char)
  | 0, _ => none
  | fuel + 1, cs =>
    match readValue fuel cs with
    | none => none
    | some (j, rest) =>
      match skipBlanks rest with
      | ',' :: rest => (readItems fuel rest).map fun (js, r) => (j :: js, r)
      | ']' :: rest => some ([j], rest)
      | _ => none

/-- Reads the fields of an object, up to and with its closing brace. -/
def readFields : Nat → List Char → Option (List (String × Json) × List Char)
  | 0, _ => none
  | fuel + 1, cs =>
    match skipBlanks cs with
    | '"' :: rest =>
      match readString rest with
      | none => none
      | some (name, rest) =>
        match skipBlanks rest with
        | ':' :: rest =>
          match readValue fuel rest with
          | none => none
          | some (j, rest) =>
            let field := (String.ofList name, j)
            match skipBlanks rest with
            | ',' :: rest => (readFields fuel rest).map fun (fs, r) => (field :: fs, r)
            | '}' :: rest => some ([field], rest)
            | _ => none
        | _ => none
    | _ => none

end

/-- Reads a text that holds one value and nothing else. -/
def read? (text : String) : Option Json :=
  match readValue (text.toList.length + 1) text.toList with
  | some (j, rest) => if (skipBlanks rest).isEmpty then some j else none
  | none => none

end TableSketch.Json
