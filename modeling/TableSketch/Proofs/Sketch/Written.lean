import TableSketch.Proofs.Sketch.Declared

/-!
# Tables written as a sketch

A table is written as a block with one line for the directive and one for each
column (`Table.written`).  Reading what was written gives the tables back
(`tables_written`), provided that they are well formed, as all tables are
that a sketch declares.

Columns may be as confusing as well-formed columns can be.  A type made of
colons only, a name with blanks inside, or text that looks like a heading does
no harm: inside a body the scan waits for a closing brace, and a line is cut
at its first colon.  An opening brace matters to the balanced reading only.

## Main results

* `Table.entries_body` — the entries of a written table are the directive and
  its columns.
* `blocks_written` — the blocks of what was written, one for each table.
* `tables_written` — reading undoes writing.
-/

namespace TableSketch

open Text

/-! ## Writing -/

/-- The line that declares a column. -/
def Column.line (c : Column) : String := "  " ++ c.name ++ ": " ++ c.type

namespace Table

/-- What stands between the braces of a written table. -/
def body (t : Table) : String :=
  "\n  shape: sql_table\n" ++
    String.join (t.columns.map fun c => c.line ++ "\n")

/-- A table written as a block. -/
def written (t : Table) : String :=
  t.name ++ r": {" ++ t.body ++ r"}" ++ "\n"

/-- The block that a written table is. -/
def block (t : Table) : Block := ⟨t.name.toList, t.body.toList⟩

end Table

/-- Tables written as a sketch. -/
def written (ts : List Table) : String := String.join (ts.map Table.written)

/-! ## Lines -/

namespace Column

theorem toList_line (c : Column) :
    c.line.toList =
      [' ', ' '] ++ (c.entry.key ++ ':' :: ([' '] ++ c.entry.value)) := by
  simp [line, entry]

theorem ofLine?_line {c : Column} (h : c.entry.IsTidy) :
    Entry.ofLine? c.line.toList = some c.entry := by
  have htwo : AllBlank [' ', ' '] := by simp [AllBlank, isBlank]
  have hone : AllBlank [' '] := by simp [AllBlank, isBlank]
  rw [toList_line]
  exact h.ofLine?_eq htwo hone

theorem mem_line {c : Column} {x : Char} (hx : x ∈ c.line.toList) :
    x ∈ [' ', ':'] ∨ x ∈ c.name.toList ++ c.type.toList := by
  rw [toList_line] at hx
  simp only [entry, List.cons_append, List.nil_append, List.mem_cons,
    List.mem_append] at hx
  rcases hx with hx | hx | hx | hx | hx | hx <;> simp [hx]

end Column

/-- Columns line by line. -/
def columnLines (cs : List Column) : List Char :=
  cs.flatMap fun c => c.line.toList ++ ['\n']

theorem columnLines_cons (c : Column) (cs : List Column) :
    columnLines (c :: cs) = c.line.toList ++ '\n' :: columnLines cs := by
  simp [columnLines]

theorem mem_columnLines {cs : List Column} {x : Char}
    (hx : x ∈ columnLines cs) :
    x ∈ ['\n', ' ', ':'] ∨ ∃ c ∈ cs, x ∈ c.name.toList ++ c.type.toList := by
  obtain ⟨c, hc, hx⟩ := List.mem_flatMap.mp hx
  rcases List.mem_append.mp hx with hx | hx
  · rcases Column.mem_line hx with hx | hx
    · exact Or.inl (List.mem_cons_of_mem _ hx)
    · exact Or.inr ⟨c, hc, hx⟩
  · exact Or.inl (List.mem_append_left _ hx)

/-- Every column is read back from its line. -/
theorem entries_columnLines {cs : List Column}
    (htidy : ∀ c ∈ cs, c.entry.IsTidy)
    (hplain : ∀ c ∈ cs, ∀ x ∈ c.name.toList ++ c.type.toList,
      isLineEnd x = false) :
    entries (columnLines cs) = cs.map Column.entry := by
  induction cs with
  | nil => rfl
  | cons c cs ih =>
      have hmarks : ∀ x ∈ [' ', ':'], isLineEnd x = false := by
        simp [isLineEnd]
      have hline : ∀ x ∈ c.line.toList, isLineEnd x = false := by
        intro x hx
        rcases Column.mem_line hx with hx | hx
        · exact hmarks x hx
        · exact hplain c (by simp) x hx
      rw [columnLines_cons, entries_lineEnd hline rfl,
        Column.ofLine?_line (htidy c (by simp)),
        ih (fun d hd => htidy d (by simp [hd]))
          (fun d hd => hplain d (by simp [hd]))]
      rfl

/-! ## Bodies -/

namespace Table

variable {t : Table}

/-- The directive stands in its line like a column. -/
theorem toList_body (t : Table) :
    t.body.toList =
      '\n' :: columnLines (⟨"shape", "sql_table"⟩ :: t.columns) := by
  have hfirst : "\n  shape: sql_table\n".toList =
      '\n' :: ((⟨"shape", "sql_table"⟩ : Column).line.toList ++ ['\n']) := by
    decide
  have hlines : ∀ cs : List Column,
      (String.join (cs.map fun c => c.line ++ "\n")).toList =
        columnLines cs := by
    intro cs
    rw [String.toList_join, List.flatMap_map]
    simp [columnLines]
  calc t.body.toList
      = "\n  shape: sql_table\n".toList ++ columnLines t.columns := by
        rw [← hlines]
        exact String.toList_append
    _ = '\n' :: columnLines (⟨"shape", "sql_table"⟩ :: t.columns) := by
        rw [columnLines_cons, List.append_cons]
        exact congrArg (· ++ columnLines t.columns) hfirst

/-- The entries of a written table. -/
theorem entries_body (h : t.WellFormed) :
    entries t.body.toList =
      Entry.directive :: t.columns.map Column.entry := by
  have htidy : ∀ c ∈ (⟨"shape", "sql_table"⟩ : Column) :: t.columns,
      c.entry.IsTidy := by
    rintro c (_ | ⟨_, hc⟩)
    · decide
    · exact (h.columns c hc).tidy
  have hplain : ∀ c ∈ (⟨"shape", "sql_table"⟩ : Column) :: t.columns,
      ∀ x ∈ c.name.toList ++ c.type.toList, isLineEnd x = false := by
    rintro c (_ | ⟨_, hc⟩)
    · simp [isLineEnd]
    · intro x hx
      obtain ⟨hnewline, hsemicolon, -⟩ := (h.columns c hc).plain x hx
      simp [isLineEnd, hnewline, hsemicolon]
  have hfirst : ∀ rest, entries ('\n' :: rest) = entries rest := fun rest =>
    entries_append_cons (c := '\n') rfl [] rest
  rw [toList_body, hfirst, entries_columnLines htidy hplain]
  rfl

/-- A written table is the table that its block describes. -/
theorem table?_block (h : t.WellFormed) : t.block.table? = some t := by
  have hcolumn : ∀ e ∈ t.columns.map Column.entry, e.isColumn = true := by
    intro e he
    obtain ⟨c, hc, rfl⟩ := List.mem_map.mp he
    have hwell := h.columns c hc
    refine Entry.isColumn_iff.mpr ⟨fun hdirective => ?_, ?_, ?_⟩
    · refine hwell.not_directive ?_
      rw [← c.column_entry, hdirective]
      rfl
    · simpa [Column.entry] using hwell.name_ne_empty
    · simpa [Column.entry] using hwell.type_ne_empty
  refine Block.table?_eq_some_iff.mpr ?_
  rw [block, entries_body h]
  refine ⟨List.mem_cons_self, ?_⟩
  rw [List.filter_cons_of_neg (by decide), List.filter_eq_self.mpr hcolumn,
    List.map_map]
  simp [Function.comp_def]

/-- The characters of a written body are those of the first line and of the
columns. -/
theorem mem_body {x : Char} (hx : x ∈ t.body.toList) :
    x ∈ "\n  shape: sql_table".toList ∨
      ∃ c ∈ t.columns, x ∈ c.name.toList ++ c.type.toList := by
  have hmarks : ∀ y ∈ ['\n', ' ', ':'], y ∈ "\n  shape: sql_table".toList := by
    simp
  have hwords : ∀ y ∈ "shape".toList ++ "sql_table".toList,
      y ∈ "\n  shape: sql_table".toList := by
    simp
  rw [toList_body, List.mem_cons] at hx
  rcases hx with rfl | hx
  · exact Or.inl (hmarks _ (by simp))
  · rcases mem_columnLines hx with hx | ⟨c, hc, hx⟩
    · exact Or.inl (hmarks x hx)
    · rcases List.mem_cons.mp hc with rfl | hc
      · exact Or.inl (hwords x hx)
      · exact Or.inr ⟨c, hc, hx⟩

/-! ## Blocks -/

theorem toList_written (t : Table) :
    t.written.toList = t.name.toList ++
      ':' :: ' ' :: '{' :: (t.body.toList ++ ['}', '\n']) := by
  simp [written]

example : (⟨"T", [⟨"id", "int"⟩]⟩ : Table).written =
    "T: {
  shape: sql_table
  id: int
}
" := by
  decide

theorem body_ne_nil (t : Table) : t.body.toList ≠ [] := by
  simp [toList_body]

theorem not_mem_body (h : t.WellFormed) : '}' ∉ t.body.toList := by
  intro hx
  rcases mem_body hx with hx | ⟨c, hc, hx⟩
  · exact absurd hx (by decide)
  · exact ((h.columns c hc).plain _ hx).2.2 rfl

theorem isFlat_block (h : t.IsFlat) : t.block.isFlat = true := by
  refine Block.isFlat_iff.mpr fun hx => ?_
  rcases mem_body hx with hx | ⟨c, hc, hx⟩
  · exact absurd hx (by decide)
  · exact h c hc hx

/-- A well-formed table is written as an enclosed body. -/
def WellFormed.enclosed (h : t.WellFormed) : Enclosed IsBody where
  name := t.name.toList
  before := []
  behind := [' ']
  name_ne_nil := by simpa using h.name_ne_empty
  name_word := h.name_word
  before_blank := by simp
  behind_blank := by simp [isBlank]
  content := t.body.toList
  holds := ⟨t.body_ne_nil, not_mem_body h⟩

theorem WellFormed.written_append (h : t.WellFormed) (rest : List Char) :
    t.written.toList ++ rest =
      h.enclosed.toHeading.text ++
        (h.enclosed.content ++ '}' :: '\n' :: rest) := by
  simp [toList_written, WellFormed.enclosed, Heading.text, Heading.tail]

/-- **One table.**  It is read as its block, and the scan begins anew. -/
theorem WellFormed.blocksFrom_written (h : t.WellFormed) (rest : List Char) :
    blocksFrom .firstClose .outside (t.written.toList ++ rest) =
      t.block :: blocksFrom .firstClose .outside rest := by
  let e := h.enclosed
  have hheading : findingsToEnd .firstClose .outside
      ([] ++ (e.toHeading.text ++ (e.content ++ '}' :: '\n' :: rest))) =
        findingsToEnd .firstClose (.body e.name.reverse [] 0 false)
          (e.content ++ '}' :: '\n' :: rest) :=
    findingsToEnd_heading .firstClose clear_nil
  calc blocksFrom .firstClose .outside (t.written.toList ++ rest)
      = blocksFrom .firstClose (.body e.name.reverse [] 0 false)
          (e.content ++ '}' :: '\n' :: rest) := by
        rw [h.written_append, blocksFrom, blocksFrom, ← hheading]
        rfl
    _ = t.block :: blocksFrom .firstClose .outside ('\n' :: rest) := by
        rw [blocksFrom_body _ e.holds.2, if_neg e.holds.1]
        rfl
    _ = t.block :: blocksFrom .firstClose .outside rest := by
        rw [blocksFrom_cons]
        rfl

end Table

/-! ## The round trip -/

/-- What was written has one block for each table. -/
theorem blocks_written {ts : List Table} (h : ∀ t ∈ ts, t.WellFormed) :
    blocks .firstClose (written ts).toList = ts.map Table.block := by
  rw [blocks_eq_blocksFrom, written, String.toList_join, List.flatMap_map]
  induction ts with
  | nil => rfl
  | cons t ts ih =>
      rw [List.flatMap_cons, (h t (by simp)).blocksFrom_written,
        ih fun u hu => h u (by simp [hu])]
      rfl

theorem filterMap_table?_block {ts : List Table}
    (h : ∀ t ∈ ts, t.WellFormed) :
    (ts.map Table.block).filterMap Block.table? = ts := by
  induction ts with
  | nil => rfl
  | cons t ts ih =>
      rw [List.map_cons,
        List.filterMap_cons_some (Table.table?_block (h t (by simp))),
        ih fun u hu => h u (by simp [hu])]

/-- **Reading undoes writing.**  Any number of well-formed tables is read back
as it was written, also by the balanced reading if no brace opens in a
column. -/
theorem tables_written (ts : List Table) (h : ∀ t ∈ ts, t.WellFormed) :
    tables .firstClose (written ts) = ts ∧
      ((∀ t ∈ ts, t.IsFlat) → tables .balanced (written ts) = ts) := by
  have hblocks := blocks_written h
  have hread := filterMap_table?_block h
  refine ⟨?_, fun hflat => ?_⟩
  · rw [tables_eq_filterMap_blocks, hblocks, hread]
  · have hequal : blocks .balanced (written ts).toList =
        blocks .firstClose (written ts).toList := by
      refine blocks_eq_of_isFlat fun b hb => ?_
      rw [hblocks] at hb
      obtain ⟨t, ht, rfl⟩ := List.mem_map.mp hb
      exact Table.isFlat_block (hflat t ht)
    rw [tables_eq_filterMap_blocks, hequal, hblocks, hread]

example : tables .firstClose (written [⟨"T", [⟨r"a{", "b"⟩]⟩]) =
      [⟨"T", [⟨r"a{", "b"⟩]⟩] ∧
    tables .balanced (written [⟨"T", [⟨r"a{", "b"⟩]⟩]) = [] := by
  decide

/-- A type of colons only, a name with blanks inside, a column in the likeness
of the directive, and a table without columns. -/
theorem tables_written_of_likenesses :
    (∀ t ∈ [(⟨"T", [⟨"a b", ":::"⟩, ⟨"shape", "oval"⟩]⟩ : Table), ⟨"T", []⟩],
        t.WellFormed ∧ t.IsFlat) ∧
      tables .firstClose
          (written [⟨"T", [⟨"a b", ":::"⟩, ⟨"shape", "oval"⟩]⟩, ⟨"T", []⟩]) =
        [⟨"T", [⟨"a b", ":::"⟩, ⟨"shape", "oval"⟩]⟩, ⟨"T", []⟩] ∧
      tables .balanced
          (written [⟨"T", [⟨"a b", ":::"⟩, ⟨"shape", "oval"⟩]⟩, ⟨"T", []⟩]) =
        [⟨"T", [⟨"a b", ":::"⟩, ⟨"shape", "oval"⟩]⟩, ⟨"T", []⟩] :=
  ⟨by decide, (tables_written _ (by decide)).1,
    (tables_written _ (by decide)).2 (by decide)⟩

end TableSketch
