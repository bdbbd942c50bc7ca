import TableSketch.Proofs.Output.Lines

/-!
# The paragraphs of a script

Statements are joined by blank lines, so one would like to read them off by
cutting the script at every blank line (`Text.paragraphs`).  That works for
texts without a blank line inside, which also must not end with a line feed
(`Text.IsParagraph`), and a statement with a row is such a text.

A table without rows is not written that way.  Its statement has an empty line
where the lines of the columns are missing, and it is cut in two there, behind
the head (`statementParagraphs`).  So the paragraphs of a script are its
statements exactly if every table has a row: a column of its own, or the one
for vectors.

## Main results

* `Text.paragraphs_intercalate` — paragraphs are told apart when they are
  joined by blank lines.
* `Ddl.paragraphs_script_of_isPlain` — the paragraphs of a script.
* `Ddl.paragraphs_script` — when they are the statements.
-/

namespace TableSketch

/-! ## Paragraphs -/

namespace Text

/-- The pieces of a text between blank lines: it is cut at every two line feeds
in a row, from the front. -/
def paragraphs : List Char → List (List Char)
  | [] => [[]]
  | '\n' :: '\n' :: cs => [] :: paragraphs cs
  | c :: cs => (paragraphs cs).modifyHead (c :: ·)

/-- A text none of whose lines is empty, the first one apart. -/
def IsParagraph (p : List Char) : Prop := [] ∉ (pieces (· == '\n') p).tail

theorem isParagraph_of_not_mem {p : List Char} (h : '\n' ∉ p) :
    IsParagraph p := by
  rw [IsParagraph, pieces_eq_singleton (beq_eq_false_of_not_mem h)]
  exact List.not_mem_nil

/-- Where no blank line begins, a character belongs to the first piece. -/
theorem paragraphs_cons {c : Char} {cs : List Char}
    (h : c = '\n' → cs.head? ≠ some '\n') :
    paragraphs (c :: cs) = (paragraphs cs).modifyHead (c :: ·) := by
  rw [paragraphs]
  rintro ds rfl rfl
  exact h rfl rfl

/-- What is left of a paragraph without its first character is one, too, and
does not begin with a line feed if that character was one. -/
theorem IsParagraph.of_cons {c : Char} {p : List Char}
    (h : IsParagraph (c :: p)) :
    IsParagraph p ∧ (c = '\n' → ∃ d q, p = d :: q ∧ d ≠ '\n') := by
  obtain ⟨q, qs, hq⟩ :=
    List.exists_cons_of_ne_nil (pieces_ne_nil (· == '\n') p)
  by_cases hc : c = '\n'
  · subst hc
    have hmem : [] ∉ pieces (· == '\n') p := h
    refine ⟨fun htail => hmem (List.mem_of_mem_tail htail), fun _ => ?_⟩
    cases p with
    | nil => simp [pieces] at hmem
    | cons d p =>
        refine ⟨d, p, rfl, ?_⟩
        rintro rfl
        exact hmem List.mem_cons_self
  · refine ⟨?_, fun hfeed => absurd hfeed hc⟩
    have hcons : pieces (· == '\n') (c :: p) = (c :: q) :: qs := by
      simp [pieces, hc, hq]
    rw [IsParagraph, hcons] at h
    rwa [IsParagraph, hq]

/-- No blank line begins in a paragraph, whatever comes behind it. -/
theorem paragraphs_append {p : List Char} (h : IsParagraph p)
    (cs : List Char) :
    paragraphs (p ++ cs) = (paragraphs cs).modifyHead (p ++ ·) := by
  induction p with
  | nil =>
      rw [List.nil_append]
      cases paragraphs cs with
      | nil => rfl
      | cons q qs => rfl
  | cons c p ih =>
      obtain ⟨hp, hfeed⟩ := h.of_cons
      -- A paragraph goes on behind a line feed, so that `cs` cannot make a
      -- blank line of its last character.
      have hhead : c = '\n' → (p ++ cs).head? ≠ some '\n' := by
        intro hc
        obtain ⟨d, q, rfl, hd⟩ := hfeed hc
        simpa using hd
      rw [List.cons_append, paragraphs_cons hhead, ih hp,
        List.modifyHead_modifyHead]
      rfl

/-- **Joined paragraphs** are told apart by the blank lines between them. -/
theorem paragraphs_intercalate {ps : List (List Char)} (hne : ps ≠ [])
    (h : ∀ p ∈ ps, IsParagraph p) :
    paragraphs (['\n', '\n'].intercalate ps) = ps := by
  induction ps with
  | nil => exact absurd rfl hne
  | cons p ps ih =>
      have hp : IsParagraph p := h p (by simp)
      cases ps with
      | nil =>
          have hsingle := paragraphs_append hp []
          rw [List.append_nil] at hsingle
          rw [List.intercalate_singleton, hsingle, paragraphs,
            List.modifyHead_cons, List.append_nil]
      | cons q qs =>
          have hblank : ∀ cs, paragraphs (['\n', '\n'] ++ cs) =
              [] :: paragraphs cs := fun _ => rfl
          rw [List.intercalate_cons_of_ne_nil (by simp), List.append_assoc,
            paragraphs_append hp, hblank,
            ih (by simp) fun r hr => h r (by simp [hr]),
            List.modifyHead_cons, List.append_nil]

end Text

namespace Ddl

open Text

/-! ## One statement -/

section Statement

variable {t : Table} {flagged : Bool} {dim : Int}

/-- The paragraphs of a statement: itself, if the table has a row. -/
def statementParagraphs (t : Table) (flagged : Bool) (dim : Int) :
    List (List Char) :=
  if t.rows flagged dim = [] then [statementHead t, [')', ';']]
  else [(tableStatement t flagged dim).toList]

theorem statementParagraphs_ne_nil (t : Table) (flagged : Bool) (dim : Int) :
    statementParagraphs t flagged dim ≠ [] := by
  unfold statementParagraphs
  split
  · simp
  · simp

/-- With the blank line between them, they make the statement. -/
theorem intercalate_statementParagraphs (t : Table) (flagged : Bool)
    (dim : Int) :
    ['\n', '\n'].intercalate (statementParagraphs t flagged dim) =
      (tableStatement t flagged dim).toList := by
  unfold statementParagraphs
  split
  · next hrows =>
      have hbody : statementBody t flagged dim = [] := by
        rw [statementBody, columnLines_eq_map, hrows]
        rfl
      rw [toList_tableStatement_lines, hbody,
        List.intercalate_cons_of_ne_nil (by simp), List.intercalate_singleton,
        List.append_assoc]
      rfl
  · exact List.intercalate_singleton

/-- No line between the head and the last line of a statement is empty if the
table has a row. -/
theorem isParagraph_tableStatement (h : t.IsPlain)
    (hrows : t.rows flagged dim ≠ []) :
    IsParagraph (tableStatement t flagged dim).toList := by
  rw [IsParagraph, pieces_tableStatement h, List.tail_cons, List.mem_append]
  rintro (hmem | hmem)
  · rcases mem_pieces_statementBody h hmem with ⟨hnone, -⟩ | ⟨r, -, hr | hr⟩
    · exact hrows hnone
    · simp [Row.ddlLine] at hr
    · simp at hr
  · simp at hmem

theorem isParagraph_of_mem_statementParagraphs (h : t.IsPlain) :
    ∀ p ∈ statementParagraphs t flagged dim, IsParagraph p := by
  intro p hp
  rw [statementParagraphs] at hp
  split at hp
  · rcases List.mem_cons.mp hp with rfl | hp
    · exact isParagraph_of_not_mem (not_mem_statementHead h).1
    · obtain rfl := List.mem_singleton.mp hp
      exact isParagraph_of_not_mem (by decide)
  · next hrows =>
      obtain rfl := List.mem_singleton.mp hp
      exact isParagraph_tableStatement h hrows

end Statement

/-! ## Scripts -/

section Script

variable {ts : List Table} {flags : Flags} {dim : Int}

/-- **The paragraphs of a script** are those of its statements. -/
theorem paragraphs_script_of_isPlain (hts : ts ≠ [])
    (h : ∀ t ∈ ts, t.IsPlain) :
    paragraphs (script ts flags dim).toList =
      ts.flatMap fun t => statementParagraphs t (flags.marks t.name) dim := by
  have hempty : ts.isEmpty = false := by simpa using hts
  have hscript : (script ts flags dim).toList =
      ['\n', '\n'].intercalate (ts.flatMap fun t =>
        statementParagraphs t (flags.marks t.name) dim) := by
    rw [intercalate_flatMap _ fun _ => statementParagraphs_ne_nil _ _ _,
      script, hempty, if_neg Bool.false_ne_true, String.toList_intercalate,
      List.map_map]
    simp only [intercalate_statementParagraphs]
    rfl
  have hne : (ts.flatMap fun t =>
      statementParagraphs t (flags.marks t.name) dim) ≠ [] := by
    obtain ⟨t, ts, rfl⟩ := List.exists_cons_of_ne_nil hts
    simp [statementParagraphs_ne_nil]
  rw [hscript, paragraphs_intercalate hne]
  intro p hp
  obtain ⟨t, ht, hp⟩ := List.mem_flatMap.mp hp
  exact isParagraph_of_mem_statementParagraphs (h t ht) p hp

/-- They are the statements if every table has a row, and only then: no
statement is what is left behind the head of a table without rows. -/
theorem flatMap_statementParagraphs_eq_iff :
    (ts.flatMap fun t => statementParagraphs t (flags.marks t.name) dim) =
        statements ts flags dim ↔
      ∀ t ∈ ts, t.rows (flags.marks t.name) dim ≠ [] := by
  constructor
  · intro h t ht hrows
    have hmem : [')', ';'] ∈ statements ts flags dim := by
      rw [← h]
      refine List.mem_flatMap.mpr ⟨t, ht, ?_⟩
      simp [statementParagraphs, hrows]
    obtain ⟨u, -, hu⟩ := List.mem_map.mp hmem
    have hfeed : '\n' ∈ [')', ';'] := by
      rw [← hu, toList_tableStatement_lines]
      simp
    exact absurd hfeed (by decide)
  · intro h
    rw [statements, List.map_eq_flatMap]
    refine List.flatMap_congr fun t ht => ?_
    rw [statementParagraphs, if_neg (h t ht)]

end Script

/-- **Blank lines between the statements.**  Cut at every blank line, the
script of a sketch falls into one piece for each table that has a row and into
two for each that has none.  So the pieces are the statements exactly if every
table has a column or is flagged. -/
theorem paragraphs_script (mode : ScanMode) (text : String) (flags : Flags)
    (dim : Int) (hts : tables mode text ≠ []) :
    let ts := tables mode text
    let sql := (script ts flags dim).toList
    paragraphs sql = ts.flatMap (fun t =>
        statementParagraphs t (flags.marks t.name) dim) ∧
      (paragraphs sql = ts.map (fun t =>
          (tableStatement t (flags.marks t.name) dim).toList) ↔
        ∀ t ∈ ts, t.columns ≠ [] ∨ flags.marks t.name = true) := by
  intro ts sql
  have hplain : ∀ t ∈ ts, t.IsPlain := fun t ht =>
    (Table.wellFormed_of_mem ht).isPlain
  have hpieces : paragraphs sql = ts.flatMap fun t =>
      statementParagraphs t (flags.marks t.name) dim :=
    paragraphs_script_of_isPlain hts hplain
  have hrows : ∀ t : Table, t.rows (flags.marks t.name) dim ≠ [] ↔
      t.columns ≠ [] ∨ flags.marks t.name = true := by
    intro t
    rw [Ne, Table.rows_eq_nil_iff, not_and_or, Bool.not_eq_false]
  refine ⟨hpieces, ?_⟩
  rw [hpieces, ← statements, flatMap_statementParagraphs_eq_iff]
  simp only [hrows]

/-- A flag is enough for a table without columns. -/
theorem paragraphs_script_of_flagged :
    let flags : Flags := ⟨[("B", .bool true)]⟩
    let ts := tables .firstClose
      "A:{shape: sql_table; a: x}\nB:{shape: sql_table}"
    ts ≠ [] ∧ paragraphs (script ts flags 3).toList =
      ts.map fun t => (tableStatement t (flags.marks t.name) 3).toList := by
  have hts : tables .firstClose
      "A:{shape: sql_table; a: x}\nB:{shape: sql_table}" =
        [⟨"A", [⟨"a", "x"⟩]⟩, ⟨"B", []⟩] := by
    decide
  have hne : tables .firstClose
      "A:{shape: sql_table; a: x}\nB:{shape: sql_table}" ≠ [] := by
    rw [hts]
    simp
  refine ⟨hne, (paragraphs_script .firstClose _ ⟨[("B", .bool true)]⟩ 3
    hne).2.mpr ?_⟩
  rw [hts]
  decide

/-- Without it, there is one table and two pieces. -/
theorem paragraphs_script_of_no_row :
    let ts := tables .firstClose "T:{shape: sql_table}"
    ts = [⟨"T", []⟩] ∧
      paragraphs (script ts {} 768).toList =
        ["CREATE TABLE T (".toList, ");".toList] ∧
      paragraphs (script ts {} 768).toList ≠
        ts.map fun t =>
          (tableStatement t (Flags.marks {} t.name) 768).toList := by
  have hts : tables .firstClose "T:{shape: sql_table}" =
      [⟨"T", []⟩] := by
    decide
  rw [hts]
  decide

end Ddl

end TableSketch
