import TableSketch.Prompt
import TableSketch.Proofs.Output.Lines

/-!
# The code block of a prompt

A prompt sets the data definition between a line that opens a code block and
one that closes it.  Whoever reads the prompt takes for the data definition
what stands between the opening line and the next line made of backticks
(`codeBlock`), whatever the blanks around them.  Names and types may be made
of backticks, too.  But no line of a column is: its name and its type can both
be seen, and there is a blank between the two (`Row.IsVisible`).

## Main results

* `Prompt.pieces_ofScript` — the lines of a prompt.
* `Prompt.isCodeLine_of_mem_pieces_script` — no line of a data definition
  opens or closes a code block.
* `Prompt.codeBlock_script` — the data definition is read back verbatim.
-/

namespace TableSketch

open Text

/-! ## Rows that can be seen -/

/-- A row with a character that is not blank in its name and one in its
type. -/
structure Row.IsVisible (r : Row) : Prop where
  name : ∃ x ∈ r.name.toList, isBlank x = false
  type : ∃ x ∈ r.type.toList, isBlank x = false

theorem Column.WellFormed.isVisible {c : Column} (h : c.WellFormed) :
    (Row.declared c).IsVisible := by
  have hname : trim c.name.toList = c.name.toList := h.tidy.key_trimmed
  have htype : trim c.type.toList = c.type.toList := by
    have htidy : Text.tidy ':' c.type.toList = c.type.toList :=
      tidy_eq_self h.tidy.value_trimmed
    rw [← htidy, trim_tidy isBlank_colon]
  refine ⟨?_, exists_not_isBlank_upper ?_⟩
  · exact exists_not_isBlank_of_trim_eq_self hname
      (mt String.toList_eq_nil_iff.mp h.name_ne_empty)
  · exact exists_not_isBlank_of_trim_eq_self htype
      (mt String.toList_eq_nil_iff.mp h.type_ne_empty)

theorem Row.isVisible_vector (dim : Int) : (vector dim).IsVisible := by
  refine ⟨⟨'e', ?_, by decide⟩, ⟨'F', ?_, by decide⟩⟩
  · simp [Row.name, Ddl.embeddingColumn]
  · simp [Row.type, Ddl.embeddingType]

/-- The rows of a table that a sketch can declare. -/
theorem Row.isVisible_of_mem_rows {t : Table} (h : t.WellFormed)
    (flagged : Bool) (dim : Int) : ∀ r ∈ t.rows flagged dim, r.IsVisible :=
  forall_mem_rows (fun c hc => (h.columns c hc).isVisible)
    (isVisible_vector dim) flagged

namespace Prompt

/-! ## The lines of a prompt -/

/-- The line that opens the code block. -/
def opening : List Char := "```sql".toList

/-- The line that closes the code block. -/
def closing : List Char := "```".toList

/-- The lines above the code block. -/
def above : List (List Char) :=
  ["I am building a new application using SQLite.".toList,
    "Here is my database schema:".toList, []]

/-- The lines below the code block. -/
def below : List (List Char) :=
  [[], ("Please generate the TypeScript types and a basic CRUD repository " ++
    "for this schema.").toList]

/-- What a prompt says in front of the data definition. -/
def front : String :=
  "I am building a new application using SQLite.\n" ++
    "Here is my database schema:\n\n```sql\n"

/-- What it says behind the data definition. -/
def back : String :=
  "\n```\n\nPlease generate the TypeScript types and a basic " ++
    "CRUD repository for this schema."

theorem toList_front :
    front.toList = rejoin '\n' (above ++ [opening]) ++ ['\n'] := by
  decide

theorem toList_back :
    back.toList = '\n' :: rejoin '\n' (closing :: below) := by
  decide

theorem toList_ofScript (sql : String) :
    (ofScript sql).toList =
      rejoin '\n' (above ++ [opening]) ++
        '\n' :: (sql.toList ++ '\n' :: rejoin '\n' (closing :: below)) := by
  have hsplit : ofScript sql = front ++ sql ++ back := rfl
  rw [hsplit, String.toList_append, String.toList_append, toList_front,
    toList_back]
  simp

/-- **The lines of a prompt.** -/
theorem pieces_ofScript (sql : String) :
    pieces (· == '\n') (ofScript sql).toList =
      above ++ opening ::
        (pieces (· == '\n') sql.toList ++ closing :: below) := by
  have habove : ∀ l ∈ above ++ [opening], '\n' ∉ l := by decide
  have hbelow : ∀ l ∈ closing :: below, '\n' ∉ l := by decide
  rw [toList_ofScript, pieces_append_cons (by rfl),
    pieces_append_cons (by rfl), pieces_rejoin (by simp) habove,
    pieces_rejoin (by simp) hbelow, List.append_assoc, List.singleton_append]

/-! ## Reading a code block -/

/-- A line that ends a code block: three backticks or more, and nothing else
but blanks around them. -/
def isFence (line : List Char) : Bool :=
  decide (3 ≤ (trim line).length) && (trim line).all (· == '`')

/-- A line that neither opens nor ends a code block. -/
def IsCodeLine (line : List Char) : Prop :=
  isFence line = false ∧ line ≠ opening

instance (line : List Char) : Decidable (IsCodeLine line) :=
  inferInstanceAs (Decidable (_ ∧ _))

/-- What stands between the first opening line of a text and the next line
that ends a code block. -/
def codeBlock (text : List Char) : List Char :=
  let lines := pieces (· == '\n') text
  let rest := (lines.dropWhile (· != opening)).drop 1
  rejoin '\n' (rest.takeWhile fun l => !isFence l)

theorem isFence_closing : isFence closing = true := by decide

theorem isCodeLine_of_mem_above : ∀ l ∈ above, IsCodeLine l := by
  decide

theorem isCodeLine_of_mem_below : ∀ l ∈ below, IsCodeLine l := by
  decide

/-- A line that holds more than backticks is no fence. -/
theorem isFence_eq_false_of_mem {line : List Char} {c : Char}
    (hc : c ∈ trim line) (hne : c ≠ '`') : isFence line = false := by
  refine Bool.eq_false_iff.mpr fun hfence => hne ?_
  rw [isFence, Bool.and_eq_true, List.all_eq_true] at hfence
  exact beq_iff_eq.mp (hfence.2 c hc)

/-- Lines that do not begin with a backtick do not open a code block. -/
theorem ne_opening_cons {c : Char} (hc : c ≠ '`') (line : List Char) :
    c :: line ≠ opening := by
  intro h
  have hopening : opening = '`' :: "``sql".toList := by decide
  rw [hopening] at h
  exact hc (List.cons.inj h).1

/-! ## The lines of a data definition -/

theorem isCodeLine_statementHead (t : Table) :
    IsCodeLine (Ddl.statementHead t) := by
  have hhead : Ddl.statementHead t =
      'C' :: ("REATE TABLE ".toList ++ t.name.toList ++ [' ', '(']) := rfl
  rw [hhead]
  refine ⟨isFence_eq_false_of_mem ?_ (by decide : 'C' ≠ '`'),
    ne_opening_cons (by decide) _⟩
  exact mem_trim_of_mem List.mem_cons_self (by decide)

/-- The line of a row that can be seen, without and with a comma. -/
theorem isCodeLine_ddlLine {r : Row} (h : r.IsVisible) :
    IsCodeLine r.ddlLine.toList ∧ IsCodeLine (r.ddlLine.toList ++ [',']) := by
  have hline : r.ddlLine.toList =
      (' ' :: ' ' :: r.name.toList) ++ ' ' :: r.type.toList := by
    simp [Row.ddlLine]
  have hname : ∃ x ∈ ' ' :: ' ' :: r.name.toList, isBlank x = false := by
    obtain ⟨x, hx, hblank⟩ := h.name
    exact ⟨x, by simp [hx], hblank⟩
  have hblank : ' ' ∈ trim r.ddlLine.toList := by
    rw [hline]
    exact mem_trim_between ' ' hname h.type
  have hcomma : ',' ∈ trim (r.ddlLine.toList ++ [',']) :=
    mem_trim_of_mem (by simp) (by decide)
  refine ⟨⟨isFence_eq_false_of_mem hblank (by decide), ?_⟩,
    ⟨isFence_eq_false_of_mem hcomma (by decide), ?_⟩⟩
  · rw [hline]
    exact ne_opening_cons (by decide) _
  · rw [hline]
    exact ne_opening_cons (by decide) _

/-- A name and a type that would each end the code block do not do so
together. -/
example : isFence "```".toList = true ∧
    isFence (Row.declared ⟨"```", "```"⟩).ddlLine.toList = false := by
  decide

/-- **No line of a data definition opens or ends a code block**, if its tables
can be declared by a sketch. -/
theorem isCodeLine_of_mem_pieces_script {ts : List Table} {flags : Flags}
    {dim : Int} (h : ∀ t ∈ ts, t.WellFormed) :
    ∀ l ∈ pieces (· == '\n') (Ddl.script ts flags dim).toList,
      IsCodeLine l := by
  have hempty : IsCodeLine [] := by decide
  have hlast : IsCodeLine [')', ';'] := by decide
  have hnone : ∀ l ∈ pieces (· == '\n') Ddl.emptyScript.toList,
      IsCodeLine l := by
    decide
  refine Ddl.forall_mem_pieces_script (fun t ht => (h t ht).isPlain) hempty
    (fun t _ => isCodeLine_statementHead t) (fun t ht r hr => ?_) hlast hnone
  exact isCodeLine_ddlLine (Row.isVisible_of_mem_rows (h t ht) _ dim r hr)

/-! ## Prompts -/

section Prompts

variable {sql : String}

/-- A data definition of code lines is what stands in the code block. -/
theorem codeBlock_ofScript
    (h : ∀ l ∈ pieces (· == '\n') sql.toList, IsCodeLine l) :
    codeBlock (ofScript sql).toList = sql.toList := by
  have habove : ∀ l ∈ above, (l != opening) = true := fun l hl =>
    bne_iff_ne.mpr (isCodeLine_of_mem_above l hl).2
  have hsql : ∀ l ∈ pieces (· == '\n') sql.toList, (!isFence l) = true :=
    fun l hl => by rw [(h l hl).1, Bool.not_false]
  rw [codeBlock, pieces_ofScript, List.dropWhile_append_of_pos habove,
    List.dropWhile_cons, bne_self_eq_false, if_neg Bool.false_ne_true,
    List.drop_succ_cons, List.drop_zero, List.takeWhile_append_of_pos hsql,
    List.takeWhile_cons, isFence_closing, Bool.not_true,
    if_neg Bool.false_ne_true, List.append_nil, rejoin_pieces]

/-- Around a data definition of code lines, a prompt has one line that ends a
code block and one that opens it. -/
theorem count_pieces_ofScript
    (h : ∀ l ∈ pieces (· == '\n') sql.toList, IsCodeLine l) :
    (pieces (· == '\n') (ofScript sql).toList).countP isFence = 1 ∧
      (pieces (· == '\n') (ofScript sql).toList).count opening = 1 := by
  have hfence : ∀ {ls : List (List Char)}, (∀ l ∈ ls, IsCodeLine l) →
      ls.countP isFence = 0 := fun hls =>
    List.countP_eq_zero.mpr fun l hl => by simp [(hls l hl).1]
  have hopening : ∀ {ls : List (List Char)}, (∀ l ∈ ls, IsCodeLine l) →
      ls.count opening = 0 := fun hls =>
    List.count_eq_zero.mpr fun hmem => (hls opening hmem).2 rfl
  rw [pieces_ofScript]
  constructor
  · simp [hfence isCodeLine_of_mem_above, hfence h,
      hfence isCodeLine_of_mem_below, isFence_closing,
      (by decide : isFence opening = false)]
  · simp [List.count_cons, hopening isCodeLine_of_mem_above, hopening h,
      hopening isCodeLine_of_mem_below,
      (by decide : (closing == opening) = false)]

end Prompts

/-- **The code block cannot be broken.**  Whatever a sketch holds, the prompt
for its data definition has a single line that ends a code block.  It follows
the last line of the data definition, whose first line follows the one line
that opens a code block; so what stands in the code block is the data
definition, verbatim. -/
theorem codeBlock_script (mode : ScanMode) (text : String)
    (p : DuplicatePolicy) (flags : Flags) (dim : Int) :
    let sql := Ddl.script (resolveDuplicates p (tables mode text)) flags dim
    let lines := pieces (· == '\n') (ofScript sql).toList
    lines = above ++ opening ::
        (pieces (· == '\n') sql.toList ++ closing :: below) ∧
      isFence closing = true ∧ lines.countP isFence = 1 ∧
      lines.count opening = 1 ∧
      codeBlock (ofScript sql).toList = sql.toList := by
  intro sql lines
  have hsql : ∀ l ∈ pieces (· == '\n') sql.toList, IsCodeLine l :=
    isCodeLine_of_mem_pieces_script (wellFormed_of_mem_resolved mode text p)
  obtain ⟨hfence, hopening⟩ := count_pieces_ofScript hsql
  exact ⟨pieces_ofScript sql, isFence_closing, hfence, hopening,
    codeBlock_ofScript hsql⟩

end Prompt

end TableSketch
