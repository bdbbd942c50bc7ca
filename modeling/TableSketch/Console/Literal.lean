import TableSketch.Text.Newline

/-!
# Literals

The parameters of an action that a tag names are literals: numbers, texts and bytes in
quotation marks, the words `True`, `False` and `None`, three dots, and tuples, sets
and dictionaries of literals. `Literal.accepts` tells whether a text is one literal.
Of the values only that is kept on which it depends how literals can be combined.

Numbers may carry signs, and a real number and an imaginary one can be added. Texts
that follow each other are one text. In brackets a line may end anywhere.
-/

namespace TableSketch.Console.Literal

/-- What a literal is. -/
inductive Kind where
  /-- A number without a sign. -/
  | number (imaginary : Bool)
  /-- A number with a sign. -/
  | signed (imaginary : Bool)
  /-- The sum or difference of a real number and an imaginary one. -/
  | complex
  /-- Text, or bytes. -/
  | text (bytes : Bool)
  /-- A word that is a value, or three dots. -/
  | constant
  /-- A tuple, and whether it can be a member of a set. -/
  | tuple (hashable : Bool)
  /-- A set or a dictionary. -/
  | collection
  /-- The word that makes an empty set when brackets follow it. -/
  | setWord
  deriving DecidableEq, Repr

/-- Whether a literal can be a member of a set or a key of a dictionary. -/
def Kind.hashable : Kind → Bool
  | .tuple h => h
  | .collection => false
  | _ => true

/-- Whether a literal is complete. -/
def Kind.isValue (k : Kind) : Bool :=
  k != .setWord

/-- The deepest nesting of brackets. -/
def maxDepth : Nat := 200

/-- The most digits of a whole number. -/
def maxDigits : Nat := 4300

/-- Drops blanks, line ends that are escaped, and comments; with `inside`, all line ends. The length
of the text bounds their number. -/
def skipFrom (inside : Bool) : Nat → List Char → List Char
  | 0, cs => cs
  | fuel + 1, cs =>
    match cs with
    | ' ' :: rest | '\t' :: rest | '\x0c' :: rest => skipFrom inside fuel rest
    | '\\' :: '\n' :: rest => skipFrom inside fuel rest
    | '\n' :: rest => if inside then skipFrom inside fuel rest else cs
    | '#' :: rest => skipFrom inside fuel (rest.dropWhile (· != '\n'))
    | _ => cs

/-- Drops what stands between literals. -/
def skip (inside : Bool) (cs : List Char) : List Char :=
  skipFrom inside cs.length cs

/-! ## Numbers -/

/-- Whether a character can go on with a word. -/
def isWordChar (c : Char) : Bool :=
  c.isAlphanum || c == '_' || 0x80 ≤ c.toNat

/-- Reads digits of a kind, of which each but the first may have an underscore in front of it. -/
def readDigits (isDigit : Char → Bool) : List Char → List Char × List Char
  | '_' :: c :: cs =>
    if isDigit c then
      let (ds, rest) := readDigits isDigit cs
      (c :: ds, rest)
    else ([], '_' :: c :: cs)
  | c :: cs =>
    if isDigit c then
      let (ds, rest) := readDigits isDigit cs
      (c :: ds, rest)
    else ([], c :: cs)
  | [] => ([], [])

/-- Reads digits that do not begin with an underscore. -/
def readPlainDigits (cs : List Char) : List Char × List Char :=
  if cs.head?.any Char.isDigit then readDigits Char.isDigit cs else ([], cs)

/-- The digits of the numbers that begin with a zero and a letter. -/
def radixDigits : List (Char × (Char → Bool)) :=
  [('x', fun c => c.isDigit || ('a' ≤ c.toLower && c.toLower ≤ 'f')),
    ('o', fun c => '0' ≤ c && c ≤ '7'), ('b', fun c => c == '0' || c == '1')]

/-- Reads the exponent of a number, if there is one; tells whether there was. -/
def readExponent (cs : List Char) : Bool × List Char :=
  let behind := match cs with
    | e :: '+' :: r | e :: '-' :: r => if e.toLower == 'e' then r else []
    | e :: r => if e.toLower == 'e' then r else []
    | [] => []
  match readPlainDigits behind with
  | ([], _) => (false, cs)
  | (_, rest) => (true, rest)

/-- Reads a decimal number. Zeros in front are for numbers with a fraction or an exponent and for
imaginary ones only. -/
def readDecimal? (cs : List Char) : Option (Kind × List Char) :=
  let (whole, rest) := readPlainDigits cs
  let (pointed, fraction, rest) := match rest with
    | '.' :: r => (true, readPlainDigits r)
    | r => (false, [], r)
  let (raised, rest) := readExponent rest
  if whole.isEmpty && fraction.isEmpty then none
  else
    match rest with
    | 'j' :: r | 'J' :: r => some (.number true, r)
    | r =>
      if pointed || raised then some (.number false, r)
      else if maxDigits < whole.length then none
      else if whole.head? == some '0' && !whole.all (· == '0') then none
      else some (.number false, r)

/-- Reads a number; no word may go on behind it. -/
def readNumber? (cs : List Char) : Option (Kind × List Char) := do
  let radix := match cs with
    | '0' :: c :: r => (radixDigits.lookup c.toLower).map fun isDigit => (isDigit, r)
    | _ => none
  let (k, rest) ← match radix with
    | some (isDigit, r) =>
      match readDigits isDigit r with
      | ([], _) => none
      | (_, rest) => some (.number false, rest)
    | none => readDecimal? cs
  if rest.head?.any isWordChar then none else some (k, rest)

/-! ## Texts -/

/-- What a quoted text is: bytes or characters, with escapes or without, and its closing mark. -/
structure Quotation where
  bytes : Bool
  raw : Bool
  mark : Char
  /-- Whether three marks open and close it. -/
  long : Bool
  deriving DecidableEq, Repr

/-- Whether a character is a hexadecimal digit. -/
def isHexDigit (c : Char) : Bool :=
  c.isDigit || ('a' ≤ c.toLower && c.toLower ≤ 'f')

/-- The number of hexadecimal digits behind an escape. -/
def Quotation.escapeDigits (q : Quotation) (c : Char) : Nat :=
  if c == 'x' then 2
  else if q.bytes then 0
  else if c == 'u' then 4
  else if c == 'U' then 8
  else 0

/-- The number that hexadecimal digits write. -/
def hexNumber (ds : List Char) : Nat :=
  ds.foldl (fun n d =>
    n * 16 + (if d.isDigit then d.toNat - '0'.toNat else d.toLower.toNat - 'a'.toNat + 10)) 0

/-- Whether an escape is well formed: enough digits of a code point follow it. Characters that are
given by name are not known. -/
def Quotation.admits (q : Quotation) (c : Char) (cs : List Char) : Bool :=
  if q.raw then true
  else if !q.bytes && c == 'N' then false
  else
    let ds := cs.take (q.escapeDigits c)
    ds.length == q.escapeDigits c && ds.all isHexDigit && hexNumber ds ≤ 0x10FFFF

/-- What is left of a text behind the closing mark. -/
def Quotation.close? (q : Quotation) : List Char → Option (List Char)
  | [] => none
  | '\\' :: c :: cs =>
    if (q.bytes && 0x80 ≤ c.toNat) || !q.admits c cs then none else q.close? cs
  | c :: cs =>
    if c == q.mark && !q.long then some cs
    else if c == q.mark && cs.take 2 == [q.mark, q.mark] then some (cs.drop 2)
    else if (c == '\n' && !q.long) || (q.bytes && 0x80 ≤ c.toNat) then none
    else q.close? cs

/-- The letters in front of a quotation mark: for bytes or not, and for a text without escapes or
not. -/
def quotationLetters : List (List Char × Bool × Bool) :=
  [([], false, false), (['u'], false, false), (['r'], false, true), (['b'], true, false),
    (['b', 'r'], true, true), (['r', 'b'], true, true)]

/-- Reads a quoted text. -/
def readQuoted? (cs : List Char) : Option (Bool × List Char) :=
  let letters := cs.takeWhile Char.isAlpha
  match quotationLetters.lookup (letters.map Char.toLower), cs.drop letters.length with
  | some (bytes, raw), mark :: rest =>
    if mark != '"' && mark != '\'' then none
    else
      let long := rest.take 2 == [mark, mark]
      let q : Quotation := ⟨bytes, raw, mark, long⟩
      (q.close? (if long then rest.drop 2 else rest)).map fun after => (bytes, after)
  | _, _ => none

/-- Reads the quoted texts behind one, which must all be of its kind and make up one text with it.
The length of the text bounds their number. -/
def readMore? (inside bytes : Bool) : Nat → List Char → Option (Kind × List Char)
  | 0, cs => some (.text bytes, cs)
  | fuel + 1, cs =>
    match readQuoted? (skip inside cs) with
    | some (b, rest) => if b = bytes then readMore? inside bytes fuel rest else none
    | none => some (.text bytes, cs)

/-! ## Literals of all kinds -/

/-- Reads a literal that stands for itself, without signs and brackets. -/
def readAtom? (inside : Bool) (cs : List Char) : Option (Kind × List Char) :=
  match cs with
  | '.' :: '.' :: '.' :: rest => some (.constant, rest)
  | cs =>
    if cs.head?.any fun c => c.isDigit || c == '.' then readNumber? cs
    else
      match readQuoted? cs with
      | some (bytes, rest) => readMore? inside bytes rest.length rest
      | none =>
        let word := String.ofList (cs.takeWhile isWordChar)
        let rest := cs.dropWhile isWordChar
        if ["True", "False", "None"].contains word then some (.constant, rest)
        else if word == "set" then some (.setWord, rest)
        else none

/-- What stands behind an empty pair of brackets. -/
def emptyBrackets? (cs : List Char) : Option (List Char) :=
  match cs with
  | '(' :: rest =>
    match skip true rest with
    | ')' :: rest => some rest
    | _ => none
  | _ => none

/-- The empty set, if a literal is the word for it and brackets follow. -/
def callSet (inside : Bool) (k : Kind) (cs : List Char) : Kind × List Char :=
  match k, emptyBrackets? (skip inside cs) with
  | .setWord, some rest => (.collection, rest)
  | k, _ => (k, cs)

/-- The number with a sign in front of it. -/
def withSign? : Kind → Option Kind
  | .number i => some (.signed i)
  | _ => none

/-- The sum of two numbers: a real one, perhaps with a sign, and an imaginary one without. -/
def sum? : Kind → Kind → Option Kind
  | .number false, .number true | .signed false, .number true => some .complex
  | _, _ => none

mutual

/-- Reads a literal, with the blanks in front of it. -/
def readLiteral? (depth : Nat) : Nat → List Char → Option (Kind × List Char)
  | 0, _ => none
  | fuel + 1, cs => do
    let (k, rest) ← readOperand? depth fuel (skip (0 < depth) cs)
    match skip (0 < depth) rest with
    | '+' :: more | '-' :: more =>
      let (l, rest) ← readOperand? depth fuel (skip (0 < depth) more)
      some (← sum? k l, rest)
    | _ => some (k, rest)

/-- Reads a literal that may have a sign. -/
def readOperand? (depth : Nat) : Nat → List Char → Option (Kind × List Char)
  | 0, _ => none
  | fuel + 1, cs =>
    match cs with
    | '+' :: rest | '-' :: rest => do
      let (k, rest) ← readOperand? depth fuel (skip (0 < depth) rest)
      some (← withSign? k, rest)
    | '(' :: rest =>
      if maxDepth ≤ depth then none
      else
        match skip true rest with
        | ')' :: rest => some (.tuple true, rest)
        | rest => do
          let (k, rest) ← readLiteral? (depth + 1) fuel rest
          match skip true rest with
          | ')' :: rest => some (callSet (0 < depth) k rest)
          | ',' :: rest =>
            if k.isValue then
              let (hashable, rest) ← readItems? (depth + 1) fuel ')' rest
              some (.tuple (k.hashable && hashable), rest)
            else none
          | _ => none
    | '{' :: rest =>
      if maxDepth ≤ depth then none
      else
        match skip true rest with
        | '}' :: rest => some (.collection, rest)
        | rest => do
          let (k, rest) ← readLiteral? (depth + 1) fuel rest
          if !k.isValue || !k.hashable then none
          match skip true rest with
          | '}' :: rest => some (.collection, rest)
          | ',' :: rest =>
            let (hashable, rest) ← readItems? (depth + 1) fuel '}' rest
            if hashable then some (.collection, rest) else none
          | ':' :: rest => do
            let (v, rest) ← readLiteral? (depth + 1) fuel rest
            if !v.isValue then none
            some (.collection, ← readEntries? (depth + 1) fuel rest)
          | _ => none
    | cs => (readAtom? (0 < depth) cs).map fun (k, rest) => callSet (0 < depth) k rest

/-- Reads items up to and with a closing bracket; tells whether all of them can be members of a
set. -/
def readItems? (depth : Nat) : Nat → Char → List Char → Option (Bool × List Char)
  | 0, _, _ => none
  | fuel + 1, closing, cs => do
    let cs := skip true cs
    if cs.head? == some closing then some (true, cs.drop 1)
    else
      let (k, rest) ← readLiteral? depth fuel cs
      if !k.isValue then none
      match skip true rest with
      | ',' :: rest =>
        let (hashable, rest) ← readItems? depth fuel closing rest
        some (k.hashable && hashable, rest)
      | c :: rest => if c == closing then some (k.hashable, rest) else none
      | [] => none

/-- What is left behind the closing bracket of a dictionary, its first entry having been read. -/
def readEntries? (depth : Nat) : Nat → List Char → Option (List Char)
  | 0, _ => none
  | fuel + 1, cs => do
    match skip true cs with
    | '}' :: rest => some rest
    | ',' :: rest =>
      match skip true rest with
      | '}' :: rest => some rest
      | rest =>
        let (k, rest) ← readLiteral? depth fuel rest
        if !k.isValue || !k.hashable then none
        match skip true rest with
        | ':' :: rest =>
          let (v, rest) ← readLiteral? depth fuel rest
          if v.isValue then readEntries? depth fuel rest else none
        | _ => none
    | _ => none

end

/-- What is left behind literals with commas between them. The length of the text bounds their
number. -/
def readTuple? : Nat → List Char → Option (List Char)
  | 0, _ => none
  | fuel + 1, cs => do
    let (k, rest) ← readLiteral? 0 (2 * cs.length + 2) cs
    if !k.isValue then none
    match skip false rest with
    | ',' :: rest => if (skip true rest).isEmpty then some [] else readTuple? fuel rest
    | rest => some rest

/-- The text from the first line that holds more than blanks and a comment, if this line is not
indented; a form feed ends the indentation. The length of the text bounds the number of lines. -/
def firstLine? (indented : Bool) : Nat → List Char → Option (List Char)
  | 0, _ => none
  | fuel + 1, cs =>
    match cs with
    | ' ' :: rest | '\t' :: rest => firstLine? true fuel rest
    | '\x0c' :: rest | '\n' :: rest => firstLine? false fuel rest
    | '\\' :: '\n' :: rest => firstLine? indented fuel rest
    | '#' :: rest => firstLine? indented fuel (rest.dropWhile (· != '\n'))
    | cs => if indented then none else some cs

/-- Whether a text without blanks around it is a literal. -/
def accepts (text : List Char) : Bool :=
  if text.contains '\x00' then false
  else
    match firstLine? false (text.length + 1) (Text.unifyNewlines text) with
    | some cs => (readTuple? (cs.length + 1) cs).any fun rest => (skip true rest).isEmpty
    | none => false

end TableSketch.Console.Literal
