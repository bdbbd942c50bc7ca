import TableSketch.Sketch.Tables

/-!
# Reading on to the end of a sketch

A scan reports while it reads, and once more when the text ends.
`findingsToEnd` joins the two, so that what a scan says from a state on is one
list with one equation for each character (`findingsToEnd_cons`) and one for
the end (`findingsToEnd_nil`).

The rest of this module says what reading makes of a body.  A body is left
only at a closing brace: without one it swallows the whole text
(`findingsToEnd_unclosed`); with the first-close reading it reaches to the
first one (`findingsToEnd_firstClose_body`); and at the brace itself the
block is reported and the search for headings begins anew
(`findingsToEnd_close`).

## Main results

* `blocks_eq_blocksFrom`, `tables_eq_filterMap_blocks` — the blocks of a
  sketch and its tables in terms of one reading from the start.
* `findingsToEnd_block` — a body up to its first closing brace, at one go.
-/

namespace TableSketch

/-! ## One character -/

theorem ScanState.after_cons (mode : ScanMode) (s : ScanState) (c : Char)
    (cs : List Char) :
    s.after mode (c :: cs) = (s.step mode c).1.after mode cs := rfl

theorem findingsFrom_cons (mode : ScanMode) (s : ScanState) (c : Char)
    (cs : List Char) :
    findingsFrom mode s (c :: cs) =
      (s.step mode c).2.toList ++ findingsFrom mode (s.step mode c).1 cs := by
  rw [findingsFrom]
  rcases s.step mode c with ⟨s', _ | f⟩ <;> rfl

/-- What is reported from a state on, the end of the text included. -/
def findingsToEnd (mode : ScanMode) (s : ScanState) (text : List Char) :
    List Finding :=
  findingsFrom mode s text ++ ((s.after mode text).atEnd mode).toList

theorem findingsToEnd_nil (mode : ScanMode) (s : ScanState) :
    findingsToEnd mode s [] = (s.atEnd mode).toList := rfl

theorem findingsToEnd_cons (mode : ScanMode) (s : ScanState) (c : Char)
    (cs : List Char) :
    findingsToEnd mode s (c :: cs) =
      (s.step mode c).2.toList ++ findingsToEnd mode (s.step mode c).1 cs := by
  rw [findingsToEnd, findingsFrom_cons, ScanState.after_cons,
    List.append_assoc, findingsToEnd]

/-! ## Blocks and tables -/

/-- The block that a character closes, if it closes one. -/
def ScanState.blockAt? (mode : ScanMode) (s : ScanState) (c : Char) :
    Option Block :=
  (s.step mode c).2.bind Finding.block?

/-- The blocks among what is reported from a state on. -/
def blocksFrom (mode : ScanMode) (s : ScanState) (text : List Char) :
    List Block :=
  (findingsToEnd mode s text).filterMap Finding.block?

theorem blocks_eq_blocksFrom (mode : ScanMode) (text : List Char) :
    blocks mode text = blocksFrom mode .outside text := rfl

/-- The end of a text closes no block. -/
theorem blocksFrom_nil (mode : ScanMode) (s : ScanState) :
    blocksFrom mode s [] = [] := by
  rw [blocksFrom, findingsToEnd_nil]
  cases s <;> cases mode <;> rfl

theorem blocksFrom_cons (mode : ScanMode) (s : ScanState) (c : Char)
    (cs : List Char) :
    blocksFrom mode s (c :: cs) =
      (s.blockAt? mode c).toList ++
        blocksFrom mode (s.step mode c).1 cs := by
  rw [blocksFrom, findingsToEnd_cons, List.filterMap_append, ← blocksFrom,
    ScanState.blockAt?]
  rcases (s.step mode c).2 with _ | f
  · rfl
  · cases h : f.block? <;> simp [h]

/-- The tables of a sketch are those of its blocks. -/
theorem tables_eq_filterMap_blocks (mode : ScanMode) (text : String) :
    tables mode text = (blocks mode text.toList).filterMap Block.table? := by
  have outcome_table? : ∀ f : Finding,
      f.outcome.table? = f.block?.bind Block.table? := by
    intro f
    cases f with
    | block b =>
        show b.outcome.table? = b.table?
        unfold Block.outcome
        cases b.table? <;> rfl
    | nested name => rfl
    | unterminated name => rfl
  rw [tables, outcomes, blocks, List.filterMap_map, List.filterMap_filterMap]
  exact congrArg (List.filterMap · _) (funext outcome_table?)

/-! ## A body -/

section Body

variable (mode : ScanMode) (name content : List Char) (depth : Nat)
  (nested : Bool)

/-- A closing brace with no other brace open ends the body. -/
theorem findingsToEnd_close (rest : List Char) :
    findingsToEnd mode (.body name content 0 nested) ('}' :: rest) =
      (ScanState.closing name content nested).toList ++
        findingsToEnd mode .outside rest :=
  findingsToEnd_cons mode _ '}' rest

/-- Without a closing brace the body goes on to the end of the text. -/
theorem findingsToEnd_unclosed {text : List Char} (h : '}' ∉ text) :
    findingsToEnd mode (.body name content depth nested) text =
      ((ScanState.body name [] 0 false).atEnd mode).toList := by
  induction text generalizing content depth nested with
  | nil => rfl
  | cons c cs ih =>
      have hc : c ≠ '}' := fun e => h (by simp [e])
      have hcs : '}' ∉ cs := fun e => h (by simp [e])
      rw [findingsToEnd_cons]
      by_cases hopen : c = '{' ∧ mode = .balanced
      · simpa [ScanState.step, hc, hopen] using ih _ _ _ hcs
      · simpa [ScanState.step, hc, hopen] using ih _ _ _ hcs

/-- The first-close reading collects whatever is no closing brace. -/
theorem findingsToEnd_firstClose_body {body : List Char} (h : '}' ∉ body)
    (rest : List Char) :
    findingsToEnd .firstClose (.body name content depth nested)
        (body ++ rest) =
      findingsToEnd .firstClose
        (.body name (body.reverse ++ content) depth nested) rest := by
  induction body generalizing content with
  | nil => rfl
  | cons c cs ih =>
      have hc : c ≠ '}' := fun e => h (by simp [e])
      have hcs : '}' ∉ cs := fun e => h (by simp [e])
      rw [List.cons_append, findingsToEnd_cons]
      simpa [ScanState.step, hc] using ih (c :: content) hcs

end Body

/-- A body up to its first closing brace.  An empty one is not reported. -/
theorem findingsToEnd_block (name : List Char) {body : List Char}
    (h : '}' ∉ body) (rest : List Char) :
    findingsToEnd .firstClose (.body name [] 0 false) (body ++ '}' :: rest) =
      (ScanState.closing name body.reverse false).toList ++
        findingsToEnd .firstClose .outside rest := by
  rw [findingsToEnd_firstClose_body name [] 0 false h, List.append_nil,
    findingsToEnd_close]

end TableSketch
