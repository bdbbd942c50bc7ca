import TableSketch.Text.Blank

/-!
# Scanning a sketch for blocks

A block is a heading followed by a body in braces:

```text
Users: {
  shape: sql_table
  id: int
}
```

The heading is an ASCII word, blanks, a colon, blanks and an opening brace. The
scan is a machine that reads one character at a time and remembers only what it
is in the middle of (`ScanState`). Reading on from a state is therefore the same
as reading the whole text (`findingsFrom_append`), and everything that was reported
about the beginning of a text stays reported, in the same order, whatever is
appended to it.

Two readings of the closing brace are offered:

* `ScanMode.firstClose` ends a body at the first `}`, so a brace that opens
  inside a body means nothing;
* `ScanMode.balanced` keeps count of the braces inside a body, and rejects a
  block as a whole when it holds another brace pair.

They differ in a single case of `ScanState.step`, the opening brace inside a
body. A heading whose body is empty is passed over in silence by both.
-/

namespace TableSketch

/-- Which closing brace ends the body of a block. -/
inductive ScanMode where
  /-- The first one. -/
  | firstClose
  /-- The one that balances the opening brace. -/
  | balanced
  deriving DecidableEq, Repr

/-- A block as found in the text: its name and what stands between its braces. -/
structure Block where
  name : List Char
  body : List Char
  deriving DecidableEq, Repr

/-- What a scan has to say about one heading. -/
inductive Finding where
  /-- A block with a body. -/
  | block (b : Block)
  /-- A block that was rejected because braces open inside it. -/
  | nested (name : List Char)
  /-- A block that never ends. -/
  | unterminated (name : List Char)
  deriving DecidableEq, Repr

/-- The block of a finding, if it is one. -/
def Finding.block? : Finding → Option Block
  | .block b => some b
  | .nested _ => none
  | .unterminated _ => none

/-- The characters of names: ASCII letters, ASCII digits and the underscore. -/
def isWordChar (c : Char) : Bool :=
  c.isAlphanum || c == '_'

/-- What the scan is in the middle of. Names and bodies are kept last character first. -/
inductive ScanState where
  /-- Between headings. -/
  | outside
  /-- In a word that may become a name. -/
  | word (name : List Char)
  /-- In the blanks behind a word. -/
  | named (name : List Char)
  /-- Behind the colon. -/
  | colon (name : List Char)
  /-- In a body: how many braces are open beyond the block's own, and whether any ever was. -/
  | body (name content : List Char) (depth : Nat) (nested : Bool)
  deriving DecidableEq, Repr

namespace ScanState

/-- A word character begins a new word, everything else leads out of the heading. -/
def restart (c : Char) : ScanState :=
  if isWordChar c then .word [c] else .outside

/-- The finding at the brace that ends a body; an empty body gives none. -/
def closing (name content : List Char) (nested : Bool) : Option Finding :=
  if nested then some (.nested name.reverse)
  else if content.isEmpty then none
  else some (.block ⟨name.reverse, content.reverse⟩)

/-- Reads one character. -/
def step (mode : ScanMode) : ScanState → Char → ScanState × Option Finding
  | .outside, c => (restart c, none)
  | .word name, c =>
    if isWordChar c then (.word (c :: name), none)
    else if c = ':' then (.colon name, none)
    else if Text.isBlank c then (.named name, none)
    else (.outside, none)
  | .named name, c =>
    if c = ':' then (.colon name, none)
    else if Text.isBlank c then (.named name, none)
    else (restart c, none)
  | .colon name, c =>
    if c = '{' then (.body name [] 0 false, none)
    else if Text.isBlank c then (.colon name, none)
    else (restart c, none)
  | .body name content depth nested, c =>
    if c = '}' then
      match depth with
      | 0 => (.outside, closing name content nested)
      | d + 1 => (.body name (c :: content) d nested, none)
    else if c = '{' ∧ mode = .balanced then
      (.body name (c :: content) (depth + 1) true, none)
    else (.body name (c :: content) depth nested, none)

/-- What is left to report when the text ends: a balanced scan tells that a block was not closed. -/
def atEnd (mode : ScanMode) : ScanState → Option Finding
  | .body name _ _ _ => if mode = .balanced then some (.unterminated name.reverse) else none
  | _ => none

/-- The state after reading a text. -/
def after (mode : ScanMode) (s : ScanState) (cs : List Char) : ScanState :=
  cs.foldl (fun s c => (s.step mode c).1) s

end ScanState

/-- What is reported while reading a text from a state, its end not being reached yet. -/
def findingsFrom (mode : ScanMode) : ScanState → List Char → List Finding
  | _, [] => []
  | s, c :: cs =>
    match s.step mode c with
    | (s', none) => findingsFrom mode s' cs
    | (s', some f) => f :: findingsFrom mode s' cs

/-- Everything a scan reports about a text. -/
def findings (mode : ScanMode) (text : List Char) : List Finding :=
  findingsFrom mode .outside text ++ (ScanState.after mode .outside text |>.atEnd mode).toList

/-- The blocks of a text, in order. -/
def blocks (mode : ScanMode) (text : List Char) : List Block :=
  (findings mode text).filterMap Finding.block?

/-! ## Reading on -/

theorem ScanState.after_append (mode : ScanMode) (s : ScanState) (a b : List Char) :
    s.after mode (a ++ b) = (s.after mode a).after mode b := by
  simp [ScanState.after]

/-- **Reading on**: a text is read like its beginning, and then its rest from the state reached. -/
theorem findingsFrom_append (mode : ScanMode) (s : ScanState) (a b : List Char) :
    findingsFrom mode s (a ++ b) =
      findingsFrom mode s a ++ findingsFrom mode (s.after mode a) b := by
  induction a generalizing s with
  | nil => rfl
  | cons c a ih =>
    have h : s.after mode (c :: a) = (s.step mode c).1.after mode a := rfl
    rw [h, List.cons_append, findingsFrom, findingsFrom]
    rcases s.step mode c with ⟨s', _ | f⟩
    · exact ih s'
    · simp [ih s']

end TableSketch
