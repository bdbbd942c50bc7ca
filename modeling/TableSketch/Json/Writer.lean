import TableSketch.Json.Basic
import TableSketch.Number.Shortest
import TableSketch.Text.Quoted

/-!
# Writing JSON

`Json.pretty` lays a value out over several lines, two blanks deeper at each level,
with an empty array or object kept on one line; `Json.compact` writes everything on
one line without blanks. In strings the quotation mark, the backslash and the
controls below the blank are escaped, everything else stands for itself. Numbers
that are not finite are written as the words that `Json.read?` knows.
-/

namespace TableSketch.Json

/-- The form of one character in a string. -/
def stringChar (c : Char) : List Char :=
  if c == '"' || c == '\\' then ['\\', c]
  else if c == '\n' then ['\\', 'n']
  else if c == '\r' then ['\\', 'r']
  else if c == '\t' then ['\\', 't']
  else if c.toNat == 0x08 then ['\\', 'b']
  else if c.toNat == 0x0C then ['\\', 'f']
  else if c.toNat < 0x20 then '\\' :: 'u' :: Text.paddedDigits 16 4 c.toNat
  else [c]

/-- A string with its quotation marks. -/
def stringText (s : String) : List Char :=
  '"' :: (s.toList.flatMap stringChar ++ ['"'])

/-- The text of a number of the double format. -/
def realText : Binary64 → String
  | .infinite false => "Infinity"
  | .infinite true => "-Infinity"
  | .nan => "NaN"
  | r => r.text

/-- The text of a value that is neither an array nor an object. -/
def scalarText : Json → List Char
  | .bool true => ['t', 'r', 'u', 'e']
  | .bool false => ['f', 'a', 'l', 's', 'e']
  | .int i => (toString i).toList
  | .real r => (realText r).toList
  | .str s => stringText s
  | _ => ['n', 'u', 'l', 'l']

mutual

/-- A value on one line. -/
def compactChars : Json → List Char
  | .arr items => '[' :: (compactItems items ++ [']'])
  | .obj fields => '{' :: (compactFields fields ++ ['}'])
  | j => scalarText j

/-- Items with commas between them. -/
def compactItems : List Json → List Char
  | [] => []
  | [j] => compactChars j
  | j :: js => compactChars j ++ ',' :: compactItems js

/-- Fields with commas between them. -/
def compactFields : List (String × Json) → List Char
  | [] => []
  | [(name, j)] => stringText name ++ ':' :: compactChars j
  | (name, j) :: fields => stringText name ++ ':' :: (compactChars j ++ ',' :: compactFields fields)

end

/-- A line feed and the indentation of a level. -/
def newLine (level : Nat) : List Char :=
  '\n' :: List.replicate (2 * level) ' '

mutual

/-- A value whose first line is already indented to `level`. -/
def prettyChars (level : Nat) : Json → List Char
  | .arr [] => ['[', ']']
  | .obj [] => ['{', '}']
  | .arr items => '[' :: (prettyItems (level + 1) items ++ newLine level ++ [']'])
  | .obj fields => '{' :: (prettyFields (level + 1) fields ++ newLine level ++ ['}'])
  | j => scalarText j

/-- Items on lines of their own. -/
def prettyItems (level : Nat) : List Json → List Char
  | [] => []
  | [j] => newLine level ++ prettyChars level j
  | j :: js => newLine level ++ prettyChars level j ++ ',' :: prettyItems level js

/-- Fields on lines of their own. -/
def prettyFields (level : Nat) : List (String × Json) → List Char
  | [] => []
  | [(name, j)] => newLine level ++ stringText name ++ ':' :: ' ' :: prettyChars level j
  | (name, j) :: fields =>
    newLine level ++ stringText name ++ ':' :: ' ' :: (prettyChars level j ++
      ',' :: prettyFields level fields)

end

/-- A value on one line, without blanks. -/
def compact (j : Json) : String :=
  String.ofList (compactChars j)

/-- A value over several lines. -/
def pretty (j : Json) : String :=
  String.ofList (prettyChars 0 j)

end TableSketch.Json
