import TableSketch.Proofs.Sketch.Entries
import TableSketch.Proofs.Sketch.Growth
import TableSketch.Proofs.Sketch.Heading

/-!
# Blanks that do not matter

The layout of a sketch is free beside its marks: line ends, colons and closing
braces.  Blanks put in front of a mark or behind it change no table
(`tables_padded`), as long as none of them is a line feed.  They do change
what is collected on the way, bodies and even the number of blocks, because a
body of blanks is a block where an empty one is none.

So two scans are compared, of a text and of the padded one, by what can still
come of their states.  States are `Alike` if they differ in the content of a
body only, and either the block is going to be rejected anyway or both
contents have the same entries, whatever follows.  Alike states complete the
same tables and stay alike (`Alike.step`).  A single blank in front of a mark
or behind it leads to alike states (`blank_mark`, `mark_blank`): outside
bodies to the same state, because a mark ends a word as a blank does.

## Main results

* `ScanState.Alike.tablesFrom_eq` — alike states lead to the same tables.
* `Padded.tablesFrom_eq` — padding changes no table, from any state on.
* `tables_padded` — nor from the start; in particular not the choice of line
  ends.
-/

namespace TableSketch

open Text

/-! ## Padding -/

/-- The characters beside which the layout is free. -/
def isMark (c : Char) : Bool := isLineEnd c || c == ':' || c == '}'

/-- The second text is the first one with blanks in front of its marks and
behind them. -/
inductive Padded : List Char → List Char → Prop
  | nil : Padded [] []
  /-- A character as it is. -/
  | keep {t t' : List Char} (c : Char) : Padded t t' →
      Padded (c :: t) (c :: t')
  /-- A mark between two runs of blanks. -/
  | mark {m : Char} {w w' t t' : List Char} : isMark m = true →
      IsSpacing w → IsSpacing w' → Padded t t' →
      Padded (m :: t) (w ++ m :: (w' ++ t'))

theorem isMark_iff {m : Char} :
    isMark m = true ↔ m = '\n' ∨ m = ';' ∨ m = ':' ∨ m = '}' := by
  simp [isMark, isLineEnd, or_assoc]

/-- A mark that is no closing brace cuts a body up. -/
theorem isMark_cases {m : Char} (hm : isMark m = true) :
    m = '}' ∨ (m ≠ '}' ∧ m ≠ '{' ∧ (isLineEnd m = true ∨ m = ':')) := by
  rcases isMark_iff.mp hm with rfl | rfl | rfl | rfl <;> decide

/-- A blank has no part in a heading or a body but to be passed over. -/
theorem isBlank_cases {x : Char} (hx : isBlank x = true) :
    isWordChar x = false ∧ x ≠ ':' ∧ x ≠ '{' ∧ x ≠ '}' := by
  refine ⟨isWordChar_of_isBlank hx, ?_, ?_, ?_⟩ <;>
  · rintro rfl
    exact absurd hx (by decide)

theorem Padded.refl (t : List Char) : Padded t t := by
  induction t with
  | nil => exact .nil
  | cons c t ih => exact .keep c ih

/-! ## Contents with the same entries -/

/-- The contents, kept last character first, have the same entries, whatever
follows. -/
def SameEntries (content content' : List Char) : Prop :=
  ∀ rest, entries (content.reverse ++ rest) =
    entries (content'.reverse ++ rest)

theorem SameEntries.cons {content content' : List Char}
    (h : SameEntries content content') (c : Char) :
    SameEntries (c :: content) (c :: content') := by
  intro rest
  simpa using h (c :: rest)

theorem Block.table?_congr {name body body' : List Char}
    (h : entries body = entries body') :
    Block.table? ⟨name, body⟩ = Block.table? ⟨name, body'⟩ := by
  simp only [Block.table?, h]

theorem SameEntries.table?_eq {content content' : List Char}
    (h : SameEntries content content') (name : List Char) :
    Block.table? ⟨name, content.reverse⟩ =
      Block.table? ⟨name, content'.reverse⟩ :=
  Block.table?_congr (by simpa using h [])

/-- One blank in front of a line end or a colon. -/
theorem sameEntries_blank_mark {x m : Char} (hx : IsSpacing [x])
    (hm : isLineEnd m = true ∨ m = ':') (content : List Char) :
    SameEntries (m :: x :: content) (m :: content) := by
  intro rest
  simpa using entries_spacing hx .nil hm content.reverse rest

/-- One blank behind it. -/
theorem sameEntries_mark_blank {x m : Char} (hx : IsSpacing [x])
    (hm : isLineEnd m = true ∨ m = ':') (content : List Char) :
    SameEntries (x :: m :: content) (m :: content) := by
  intro rest
  simpa using entries_spacing .nil hx hm content.reverse rest

namespace ScanState

/-! ## Tables from alike states -/

section Body

variable (mode : ScanMode) (name content : List Char)

/-- The closing brace of a body completes its table; an empty body has none
anyway. -/
theorem tableAt?_close :
    (body name content 0 false).tableAt? mode '}' =
      Block.table? ⟨name.reverse, content.reverse⟩ := by
  cases content with
  | nil => rfl
  | cons c cs => simp [tableAt?, blockAt?, step, closing, Finding.block?]

/-- A rejected block completes none. -/
theorem tableAt?_nested (depth : Nat) (c : Char) :
    (body name content depth true).tableAt? mode c = none := by
  by_cases hc : c = '}'
  · subst hc
    cases depth <;> rfl
  · exact tableAt?_eq_none mode _ hc

/-- Nor does a brace inside a body. -/
theorem tableAt?_deep (depth : Nat) (nested : Bool) (c : Char) :
    (body name content (depth + 1) nested).tableAt? mode c = none := by
  by_cases hc : c = '}'
  · subst hc
    rfl
  · exact tableAt?_eq_none mode _ hc

end Body

/-- States from which the same tables are found, whatever follows. -/
inductive Alike : ScanState → ScanState → Prop
  | refl (s : ScanState) : Alike s s
  /-- Inside bodies that have the same entries, or are going to be rejected
  anyway. -/
  | body {name content content' : List Char} {depth : Nat} {nested : Bool} :
      (nested = false → SameEntries content content') →
      Alike (.body name content depth nested)
        (.body name content' depth nested)

/-- **One character.**  Alike states complete the same table and stay
alike. -/
theorem Alike.step {s s' : ScanState} (h : Alike s s') (mode : ScanMode)
    (c : Char) :
    s.tableAt? mode c = s'.tableAt? mode c ∧
      Alike (s.step mode c).1 (s'.step mode c).1 := by
  cases h with
  | refl => exact ⟨rfl, .refl _⟩
  | @body name content content' depth nested hsame =>
      by_cases hclose : c = '}'
      · subst hclose
        cases depth with
        | zero =>
            refine ⟨?_, .refl _⟩
            cases nested with
            | true => rw [tableAt?_nested, tableAt?_nested]
            | false =>
                rw [tableAt?_close, tableAt?_close, (hsame rfl).table?_eq]
        | succ d =>
            refine ⟨by rw [tableAt?_deep, tableAt?_deep], ?_⟩
            exact .body fun hnested => (hsame hnested).cons '}'
      · refine ⟨by rw [tableAt?_eq_none mode _ hclose,
          tableAt?_eq_none mode _ hclose], ?_⟩
        by_cases hopen : c = '{' ∧ mode = .balanced
        · have hrejected : Alike
              (.body name (c :: content) (depth + 1) true)
              (.body name (c :: content') (depth + 1) true) :=
            .body (by simp)
          simpa [ScanState.step, hopen] using hrejected
        · have hnext : Alike (.body name (c :: content) depth nested)
              (.body name (c :: content') depth nested) :=
            .body fun hnested => (hsame hnested).cons c
          simpa [ScanState.step, hclose, hopen] using hnext

/-- **All characters.**  Alike states lead to the same tables. -/
theorem Alike.tablesFrom_eq {s s' : ScanState} (h : Alike s s')
    (mode : ScanMode) (text : List Char) :
    tablesFrom mode s text = tablesFrom mode s' text := by
  induction text generalizing s s' with
  | nil => rw [tablesFrom_nil, tablesFrom_nil]
  | cons c cs ih =>
      obtain ⟨htable, hnext⟩ := h.step mode c
      rw [tablesFrom_cons, tablesFrom_cons, htable, ih hnext]

/-! ## One blank beside a mark -/

/-- Braces are open beyond the block's own only in a block that is going to be
rejected. -/
def Counted : ScanState → Prop
  | .body _ _ depth nested => nested = false → depth = 0
  | _ => True

theorem Flat.counted {s : ScanState} (h : s.Flat) : s.Counted := by
  cases s with
  | body name content depth nested => exact fun _ => h.1
  | _ => trivial

theorem Counted.step {s : ScanState} (h : s.Counted) (mode : ScanMode)
    (c : Char) : (s.step mode c).1.Counted := by
  rcases s.inBody_cases with hbody | ⟨name, content, depth, nested, rfl⟩
  · obtain ⟨hstep, hflat⟩ := step_of_not_inBody hbody c
    rw [hstep]
    exact hflat.counted
  · by_cases hclose : c = '}'
    · subst hclose
      cases depth with
      | zero => trivial
      | succ d => exact fun hnested => absurd (h hnested) (by simp)
    · by_cases hopen : c = '{' ∧ mode = .balanced
      · simp [ScanState.step, hopen, Counted]
      · simpa [ScanState.step, hclose, hopen, Counted] using h

/-- Where a blank leads: it ends a word. -/
def settle : ScanState → ScanState
  | .word name => .named name
  | s => s

/-- Outside bodies a blank settles the state. -/
theorem step_blank {s : ScanState} (hs : ¬ s.InBody) {x : Char}
    (hx : isBlank x = true) (mode : ScanMode) :
    s.step mode x = (s.settle, none) := by
  obtain ⟨hword, hcolon, hopen, -⟩ := isBlank_cases hx
  cases s with
  | body name content depth nested => exact absurd trivial hs
  | outside => simp [step, restart, settle, hword]
  | word name => simp [step, settle, hword, hcolon, hx]
  | named name => simp [step, settle, hcolon, hx]
  | colon name => simp [step, settle, hopen, hx]

/-- Outside bodies a mark does not care whether the state was settled, and
leaves it settled. -/
theorem step_mark {s : ScanState} (hs : ¬ s.InBody) {m : Char}
    (hm : isMark m = true) (mode : ScanMode) :
    (s.settle.step mode m).1 = (s.step mode m).1 ∧
      ¬ (s.step mode m).1.InBody ∧
      (s.step mode m).1.settle = (s.step mode m).1 := by
  cases s with
  | body name content depth nested => exact absurd trivial hs
  | _ =>
      rcases isMark_iff.mp hm with rfl | rfl | rfl | rfl <;>
        exact ⟨rfl, not_false, rfl⟩

theorem tableAt?_of_not_inBody {s : ScanState} (hs : ¬ s.InBody)
    (mode : ScanMode) (c : Char) : s.tableAt? mode c = none := by
  rw [tableAt?, blockAt?_of_not_inBody hs]
  rfl

theorem not_inBody_settle {s : ScanState} (hs : ¬ s.InBody) :
    ¬ s.settle.InBody := by
  cases s with
  | body name content depth nested => exact absurd trivial hs
  | _ => exact not_false

/-- Inside a body characters other than braces are collected. -/
theorem step_body {c : Char} (hopen : c ≠ '{') (hclose : c ≠ '}')
    (mode : ScanMode) (name content : List Char) (depth : Nat)
    (nested : Bool) :
    (body name content depth nested).step mode c =
      (.body name (c :: content) depth nested, none) := by
  simp [step, hopen, hclose]

section Beside

variable {s : ScanState} {x m : Char}

/-- **A blank in front of a mark.**  The mark completes the same table and
leads to an alike state. -/
theorem blank_mark (hs : s.Counted) (hx : IsSpacing [x])
    (hm : isMark m = true) (mode : ScanMode) :
    (s.step mode x).1.tableAt? mode m = s.tableAt? mode m ∧
      Alike ((s.step mode x).1.step mode m).1 (s.step mode m).1 := by
  have hblank : isBlank x = true := (hx x (by simp)).1
  obtain ⟨-, -, hopen, hclose⟩ := isBlank_cases hblank
  rcases s.inBody_cases with hbody | ⟨name, content, depth, nested, rfl⟩
  · rw [step_blank hbody hblank, (step_mark hbody hm mode).1]
    exact ⟨by rw [tableAt?_of_not_inBody (not_inBody_settle hbody),
      tableAt?_of_not_inBody hbody], .refl _⟩
  · rw [step_body hopen hclose]
    rcases isMark_cases hm with rfl | ⟨hclose', hopen', hcuts⟩
    · -- With other braces open, the block is going to be rejected.
      cases depth with
      | zero =>
          refine ⟨?_, .refl _⟩
          cases nested with
          | true => rw [tableAt?_nested, tableAt?_nested]
          | false =>
              rw [tableAt?_close, tableAt?_close, List.reverse_cons]
              exact Block.table?_congr (entries_append_spacing hx _)
      | succ d =>
          refine ⟨by rw [tableAt?_deep, tableAt?_deep], ?_⟩
          exact .body fun hnested => absurd (hs hnested) (by simp)
    · rw [step_body hopen' hclose', step_body hopen' hclose',
        tableAt?_eq_none mode _ hclose', tableAt?_eq_none mode _ hclose']
      exact ⟨rfl, .body fun _ => sameEntries_blank_mark hx hcuts content⟩

/-- **A blank behind a mark.**  It leads to an alike state. -/
theorem mark_blank (hs : s.Counted) (hx : IsSpacing [x])
    (hm : isMark m = true) (mode : ScanMode) :
    Alike ((s.step mode m).1.step mode x).1 (s.step mode m).1 := by
  have hblank : isBlank x = true := (hx x (by simp)).1
  obtain ⟨-, -, hopen, hclose⟩ := isBlank_cases hblank
  rcases s.inBody_cases with hbody | ⟨name, content, depth, nested, rfl⟩
  · obtain ⟨-, hbody', hsettled⟩ := step_mark hbody hm mode
    rw [step_blank hbody' hblank, hsettled]
    exact .refl _
  · rcases isMark_cases hm with rfl | ⟨hclose', hopen', hcuts⟩
    · cases depth with
      | zero =>
          have houtside : ¬ ScanState.outside.InBody := not_false
          show Alike (ScanState.outside.step mode x).1 .outside
          rw [step_blank houtside hblank]
          exact .refl _
      | succ d =>
          show Alike ((body name ('}' :: content) d nested).step mode x).1 _
          rw [step_body hopen hclose]
          exact .body fun hnested => absurd (hs hnested) (by simp)
    · rw [step_body hopen' hclose', step_body hopen hclose]
      exact .body fun _ => sameEntries_mark_blank hx hcuts content

end Beside

end ScanState

/-! ## Runs of blanks beside a mark -/

section Runs

variable {s : ScanState} {w : List Char} {m : Char}

/-- A blank completes no table. -/
theorem tablesFrom_blank_cons {x : Char} (hx : IsSpacing [x])
    (mode : ScanMode) (s : ScanState) (text : List Char) :
    tablesFrom mode s (x :: text) =
      tablesFrom mode (s.step mode x).1 text := by
  obtain ⟨-, -, -, hclose⟩ := isBlank_cases (hx x (by simp)).1
  rw [tablesFrom_cons, ScanState.tableAt?_eq_none mode s hclose]
  rfl

theorem tablesFrom_spacing_mark (hs : s.Counted) (hw : IsSpacing w)
    (hm : isMark m = true) (mode : ScanMode) (text : List Char) :
    tablesFrom mode s (w ++ m :: text) = tablesFrom mode s (m :: text) := by
  induction w generalizing s with
  | nil => rfl
  | cons x w ih =>
      obtain ⟨htable, halike⟩ := ScanState.blank_mark hs hw.head hm mode
      rw [List.cons_append, tablesFrom_blank_cons hw.head,
        ih (hs.step mode x) hw.tail, tablesFrom_cons, tablesFrom_cons, htable,
        halike.tablesFrom_eq]

theorem tablesFrom_mark_spacing (hs : s.Counted) (hw : IsSpacing w)
    (hm : isMark m = true) (mode : ScanMode) (text : List Char) :
    tablesFrom mode s (m :: (w ++ text)) = tablesFrom mode s (m :: text) := by
  induction w with
  | nil => rfl
  | cons x w ih =>
      have halike := ScanState.mark_blank hs hw.head hm mode
      rw [List.cons_append, tablesFrom_cons, tablesFrom_blank_cons hw.head,
        halike.tablesFrom_eq, ← tablesFrom_cons, ih hw.tail]

end Runs

/-! ## Padded texts -/

/-- **Padding changes no table**, whatever the scan is in the middle of. -/
theorem Padded.tablesFrom_eq {t t' : List Char} (h : Padded t t')
    {s : ScanState} (hs : s.Counted) (mode : ScanMode) :
    tablesFrom mode s t' = tablesFrom mode s t := by
  induction h generalizing s with
  | nil => rfl
  | keep c _ ih => rw [tablesFrom_cons, tablesFrom_cons, ih (hs.step mode c)]
  | @mark m w w' t t' hm hw hw' _ ih =>
      rw [tablesFrom_spacing_mark hs hw hm, tablesFrom_mark_spacing hs hw' hm,
        tablesFrom_cons, tablesFrom_cons, ih (hs.step mode m)]

/-- The text with a carriage return in front of every line feed. -/
def withCarriageReturns (text : List Char) : List Char :=
  text.flatMap fun c => if c = '\n' then ['\r', '\n'] else [c]

/-- The text without the carriage returns in front of line feeds. -/
def withoutCarriageReturns : List Char → List Char
  | [] => []
  | '\r' :: '\n' :: cs => '\n' :: withoutCarriageReturns cs
  | c :: cs => c :: withoutCarriageReturns cs

/-- One kind of padding is a carriage return in front of a line feed. -/
theorem Padded.carriageReturn {t t' : List Char} (h : Padded t t') :
    Padded ('\n' :: t) ('\r' :: '\n' :: t') := by
  have hreturn : IsSpacing ['\r'] := by simp [IsSpacing, isBlank]
  have hpadded := Padded.mark (m := '\n') rfl hreturn .nil h
  exact hpadded

theorem padded_withCarriageReturns (text : List Char) :
    Padded text (withCarriageReturns text) := by
  induction text with
  | nil => exact .nil
  | cons c cs ih =>
      rw [withCarriageReturns, List.flatMap_cons]
      by_cases hc : c = '\n'
      · subst hc
        exact ih.carriageReturn
      · rw [if_neg hc]
        exact .keep c ih

theorem padded_withoutCarriageReturns (text : List Char) :
    Padded (withoutCarriageReturns text) text := by
  fun_induction withoutCarriageReturns text with
  | case1 => exact .nil
  | case2 cs ih => exact ih.carriageReturn
  | case3 c cs _ ih => exact .keep c ih

/-- **The layout is free.**  Blanks beside the marks of a sketch change no
table, in either reading; in particular it does not matter whether lines end
with a carriage return in front of the line feed. -/
theorem tables_padded (mode : ScanMode) :
    (∀ text text' : String, Padded text.toList text'.toList →
        tables mode text' = tables mode text) ∧
      ∀ text : String,
        tables mode (String.ofList (withCarriageReturns text.toList)) =
            tables mode text ∧
          tables mode (String.ofList (withoutCarriageReturns text.toList)) =
            tables mode text := by
  have hpadded : ∀ text text' : String, Padded text.toList text'.toList →
      tables mode text' = tables mode text := by
    intro text text' h
    rw [tables_eq_tablesFrom, tables_eq_tablesFrom]
    exact h.tablesFrom_eq (s := .outside) trivial mode
  refine ⟨hpadded, fun text => ⟨hpadded _ _ ?_, (hpadded _ _ ?_).symm⟩⟩
  · rw [String.toList_ofList]
    exact padded_withCarriageReturns text.toList
  · rw [String.toList_ofList]
    exact padded_withoutCarriageReturns text.toList

/-- A blank inside an empty body makes a block of it, but no table. -/
theorem tables_padded_of_empty_body :
    Padded "A:{}T:{shape: sql_table}".toList
        "A:{ }T:{shape: sql_table}".toList ∧
      tables .firstClose "A:{ }T:{shape: sql_table}" =
        tables .firstClose "A:{}T:{shape: sql_table}" := by
  have hblank : IsSpacing [' '] := by simp [IsSpacing, isBlank]
  have hpadded : Padded "A:{}T:{shape: sql_table}".toList
      "A:{ }T:{shape: sql_table}".toList := by
    refine .keep 'A' (.keep ':' (.keep '{' ?_))
    have hclose := Padded.mark (m := '}') rfl hblank .nil
      (Padded.refl "T:{shape: sql_table}".toList)
    exact hclose
  exact ⟨hpadded, (tables_padded .firstClose).1 _ _ hpadded⟩

end TableSketch
