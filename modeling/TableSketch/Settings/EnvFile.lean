import TableSketch.Text.Blank

/-!
# Environment files

A file of lines `NAME=value`. A name may be introduced by `export` and may stand in
single quotes; blanks around the equals sign do not count. A value is the rest of
the line without a comment, or a text in single or double quotes, which may span
lines and holds escapes. A name without an equals sign is known but has no value.
Lines that are none of this are passed over, and so are comments.

Values may refer to variables as `${NAME}` or `${NAME:-default}`. A name that the
file has given before counts first, then the environment.
-/

namespace TableSketch.EnvFile

/-- A name and its value, if it has one. -/
structure Binding where
  name : String
  value : Option String
  deriving DecidableEq, Repr

/-- Drops blanks, but no line feed. -/
def skipInline (cs : List Char) : List Char :=
  cs.dropWhile fun c => Text.isBlank c && c != '\n'

/-- What is left behind the end of the line. -/
def skipLine (cs : List Char) : List Char :=
  (cs.dropWhile (· != '\n')).drop 1

/-- Drops the word that may introduce a name. -/
def skipExport (cs : List Char) : List Char :=
  match cs with
  | 'e' :: 'x' :: 'p' :: 'o' :: 'r' :: 't' :: rest =>
    let after := skipInline rest
    if after.length < rest.length then after else cs
  | _ => cs

/-- Reads a name. A comment has none, and everything that cannot begin a name is refused. -/
def readName? (cs : List Char) : Option (Option (List Char) × List Char) :=
  match cs with
  | '#' :: _ => some (none, cs)
  | '\'' :: rest =>
    let name := rest.takeWhile (· != '\'')
    match rest.dropWhile (· != '\'') with
    | _ :: after => if name.isEmpty then none else some (some name, after)
    | [] => none
  | _ =>
    let inName := fun c => c != '=' && c != '#' && !Text.isBlank c
    let name := cs.takeWhile inName
    if name.isEmpty then none else some (some name, cs.dropWhile inName)

/-- Cuts a text behind an opening mark at the closing one. A backslash takes the character behind
it with it, so that this one closes nothing. -/
def cutQuoted? (mark : Char) : List Char → Option (List Char × List Char)
  | [] => none
  | '\\' :: c :: cs => (cutQuoted? mark cs).map fun (a, b) => ('\\' :: c :: a, b)
  | c :: cs =>
    if c = mark then some ([], cs)
    else (cutQuoted? mark cs).map fun (a, b) => (c :: a, b)

/-- The character of an escape in single quotes. -/
def singleEscape? (c : Char) : Option Char :=
  if c == '\\' || c == '\'' then some c else none

/-- The character of an escape in double quotes. -/
def doubleEscape? (c : Char) : Option Char :=
  match c with
  | '\\' => some '\\'
  | '\'' => some '\''
  | '"' => some '"'
  | 'a' => some '\x07'
  | 'b' => some '\x08'
  | 'f' => some '\x0c'
  | 'n' => some '\n'
  | 'r' => some '\r'
  | 't' => some '\t'
  | 'v' => some '\x0b'
  | _ => none

/-- Replaces the escapes; a backslash in front of anything else stands for itself. -/
def unescape (escape? : Char → Option Char) : List Char → List Char
  | '\\' :: c :: cs =>
    match escape? c with
    | some d => d :: unescape escape? cs
    | none => '\\' :: unescape escape? (c :: cs)
  | c :: cs => c :: unescape escape? cs
  | [] => []

/-- A line up to the blanks in front of a comment. -/
def cutComment : List Char → List Char
  | [] => []
  | c :: cs =>
    if Text.isBlank c && (cs.dropWhile Text.isBlank).head? == some '#' then []
    else c :: cutComment cs

/-- Reads a value, with the blanks in front of it. -/
def readValue? (cs : List Char) : Option (List Char × List Char) :=
  match skipInline cs with
  | '\'' :: rest => (cutQuoted? '\'' rest).map fun (v, r) => (unescape singleEscape? v, r)
  | '"' :: rest => (cutQuoted? '"' rest).map fun (v, r) => (unescape doubleEscape? v, r)
  | _ => some (Text.trim (cutComment (cs.takeWhile (· != '\n'))), cs.dropWhile (· != '\n'))

/-- Goes to the next line, over a comment; anything else in between is refused. -/
def finishLine? (cs : List Char) : Option (List Char) :=
  let cs := match skipInline cs with
    | '#' :: rest => rest.dropWhile (· != '\n')
    | rest => rest
  match cs with
  | [] => some []
  | '\n' :: rest => some rest
  | _ => none

/-- Reads one binding behind the blanks in front of it; what is refused costs the rest of the
line. -/
def readBinding (cs : List Char) : Option Binding × List Char :=
  let cs := skipExport cs
  match readName? cs with
  | none => (none, skipLine cs)
  | some (name, cs) =>
    let cs := skipInline cs
    match cs with
    | '=' :: rest =>
      match readValue? rest with
      | none => (none, skipLine rest)
      | some (value, rest) =>
        match finishLine? rest with
        | none => (none, skipLine rest)
        | some after =>
          (name.map fun n => ⟨String.ofList n, some (String.ofList value)⟩, after)
    | _ =>
      match finishLine? cs with
      | none => (none, skipLine cs)
      | some after => (name.map fun n => ⟨String.ofList n, none⟩, after)

/-- The bindings of a text, whose length bounds their number. -/
def readBindings : Nat → List Char → List Binding
  | 0, _ => []
  | fuel + 1, cs =>
    match cs.dropWhile Text.isBlank with
    | [] => []
    | cs =>
      let (b, rest) := readBinding cs
      b.toList ++ readBindings fuel rest

/-- The values known so far; a later binding of a name replaces the earlier one in its place. -/
def bind (known : List (String × Option String)) (name : String) (value : Option String) :
    List (String × Option String) :=
  if (known.map Prod.fst).contains name then
    known.map fun e => if e.1 == name then (name, value) else e
  else known ++ [(name, value)]

/-- The reference at the front of a text behind `${`: its name, its default and the rest. -/
def readReference? (cs : List Char) : Option (List Char × List Char × List Char) :=
  let name := cs.takeWhile fun c => c != '}' && c != ':'
  match cs.drop name.length with
  | '}' :: rest => some (name, [], rest)
  | ':' :: '-' :: rest =>
    match rest.dropWhile (· != '}') with
    | _ :: after => some (name, rest.takeWhile (· != '}'), after)
    | [] => none
  | _ => none

/-- Replaces the references in a value, whose length bounds their number. -/
def expand (lookup : String → Option String) : Nat → List Char → List Char
  | 0, cs => cs
  | _, [] => []
  | fuel + 1, '$' :: '{' :: rest =>
    match readReference? rest with
    | some (name, default, after) =>
      ((lookup (String.ofList name)).map String.toList).getD default ++ expand lookup fuel after
    | none => '$' :: expand lookup fuel ('{' :: rest)
  | fuel + 1, c :: cs => c :: expand lookup fuel cs

/-- What a reference to a name stands for. -/
def reference? (environment : List (String × String)) (known : List (String × Option String))
    (name : String) : Option String :=
  match known.lookup name with
  | some value => some (value.getD "")
  | none => environment.lookup name

/-- The values that a text gives to names, in an environment. -/
def values (environment : List (String × String)) (text : List Char) :
    List (String × Option String) :=
  (readBindings (text.length + 1) text).foldl
    (fun known b =>
      let value := b.value.map fun v =>
        String.ofList (expand (reference? environment known) (v.toList.length + 1) v.toList)
      bind known b.name value) []

end TableSketch.EnvFile
