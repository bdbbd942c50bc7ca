import TableSketch.Proofs.Output.Script

/-!
# Reading a page back

The preview and the script of a schema are written by different hands, and a
reader who approves of the one relies on the other.  They agree because a page
says what the lines of the columns are, which is all that a script says.

No line of a page holds a line feed, so a page says what its lines are
(`lines_eq_of_markdown_eq`).  The summary has the same number of lines for all
schemas.  Of the lines of a section only the last one is blank
(`isClosed_tableLines`), so the lines below the summary say what the sections
are.  And a section says what the name of the table is and, row by row, what
the names and types are (`eq_of_tableLines_eq`).

The page says more than the script: it marks the column for vectors, which may
have the same name and type as a declared one.

## Main results

* `script_eq_of_markdown_eq` — schemas with the same page have the same
  script.
-/

namespace TableSketch.Preview

open Text

/-! ## The lines of a page -/

section Lines

variable {ts us : List Table} {t : Table} {flagged : Bool}
  {flags flags' : Flags} {dim dim' : Int}

theorem isOneLine_of_mem_summary :
    ∀ l ∈ summary ts flags, IsOneLine l := by
  have hcount : ∀ (label : String) (n : Nat), IsOneLine label →
      IsOneLine (label ++ toString n) :=
    fun label n hlabel => hlabel.append (.repr_nat n)
  simp only [summary, List.forall_mem_cons]
  exact ⟨by decide, by decide, hcount _ _ (by decide), hcount _ _ (by decide),
    by decide, fun l hl => nomatch hl⟩

theorem isOneLine_of_mem_tableLines (h : t.IsPlain) :
    ∀ l ∈ tableLines t flagged dim, IsOneLine l := by
  intro l hl
  rw [tableLines_eq_append, List.mem_append, List.mem_cons] at hl
  rcases hl with (rfl | hl) | hl
  · exact .append (by decide) h.name
  · obtain ⟨r, hr, rfl⟩ := List.mem_map.mp hl
    exact (Row.isPlain_of_mem_rows h flagged dim r hr).previewLine
  · obtain rfl : l = "" := List.mem_singleton.mp hl
    decide

theorem sections_of_ne_nil (hts : ts ≠ []) :
    sections ts flags dim =
      (ts.map fun t => tableLines t (flags.marks t.name) dim).flatten := by
  rw [sections, if_neg (by simpa using hts), List.flatMap_def]

theorem isOneLine_of_mem_sections (h : ∀ t ∈ ts, t.IsPlain) :
    ∀ l ∈ sections ts flags dim, IsOneLine l := by
  intro l hl
  by_cases hts : ts = []
  · subst hts
    rcases List.mem_pair.mp hl with rfl | rfl <;> decide
  · rw [sections_of_ne_nil hts] at hl
    obtain ⟨ls, hls, hl⟩ := List.mem_flatten.mp hl
    obtain ⟨t, ht, rfl⟩ := List.mem_map.mp hls
    exact isOneLine_of_mem_tableLines (h t ht) l hl

/-- No line of a page holds a line feed. -/
theorem lineFeed_not_mem_of_mem_lines (h : ∀ t ∈ ts, t.IsPlain) :
    ∀ cs ∈ (summary ts flags ++ sections ts flags dim).map String.toList,
      '\n' ∉ cs := by
  have hlines : ∀ l ∈ summary ts flags ++ sections ts flags dim,
      IsOneLine l :=
    List.forall_mem_append.mpr
      ⟨isOneLine_of_mem_summary, isOneLine_of_mem_sections h⟩
  exact fun cs hcs => (IsOneLine.not_mem_of_mem_map hlines cs hcs).1

/-- **The lines of a page** are told apart. -/
theorem lines_eq_of_markdown_eq (hts : ∀ t ∈ ts, t.IsPlain)
    (hus : ∀ u ∈ us, u.IsPlain)
    (h : markdown ts flags dim = markdown us flags' dim') :
    summary ts flags ++ sections ts flags dim =
      summary us flags' ++ sections us flags' dim' := by
  have hchars := congrArg String.toList h
  rw [markdown, markdown, String.toList_intercalate,
    String.toList_intercalate] at hchars
  have hlists := intercalate_inj '\n' List.not_mem_nil (by simp [summary])
    (by simp [summary]) (lineFeed_not_mem_of_mem_lines hts)
    (lineFeed_not_mem_of_mem_lines hus) hchars
  exact (List.map_inj_right fun _ _ => String.toList_inj.mp).mp hlists

/-- What stands below the summary. -/
theorem sections_eq_of_markdown_eq (hts : ∀ t ∈ ts, t.IsPlain)
    (hus : ∀ u ∈ us, u.IsPlain)
    (h : markdown ts flags dim = markdown us flags' dim') :
    sections ts flags dim = sections us flags' dim' :=
  (List.append_inj (lines_eq_of_markdown_eq hts hus h) rfl).2

end Lines

/-! ## Sections -/

section Sections

variable {ts us : List Table} {t u : Table} {flagged flagged' : Bool}
  {flags flags' : Flags} {dim dim' : Int}

/-- **The blank line of a section** is its last line. -/
theorem isClosed_tableLines : IsClosed "" (tableLines t flagged dim) := by
  refine ⟨_, tableLines_eq_append t flagged dim, ?_⟩
  simp [Row.previewLine]

/-- No row of a table has a name with a colon. -/
theorem colon_not_mem_name (h : t.WellFormed) :
    ∀ r ∈ t.rows flagged dim, ':' ∉ r.name.toList := by
  have hvector : ':' ∉ (Row.vector dim).name.toList :=
    (by decide : ':' ∉ Ddl.embeddingColumn.toList)
  exact Row.forall_mem_rows (fun c hc => (h.columns c hc).tidy.key_colon)
    hvector flagged

/-- **What a section tells**: the name and, row by row, the line of the data
definition. -/
theorem eq_of_tableLines_eq (ht : t.WellFormed) (hu : u.WellFormed)
    (h : tableLines t flagged dim = tableLines u flagged' dim') :
    t.name = u.name ∧
      Ddl.columnLines t flagged dim = Ddl.columnLines u flagged' dim' := by
  rw [tableLines_eq_append, tableLines_eq_append] at h
  obtain ⟨hhead, hrows⟩ := List.cons.inj (List.append_cancel_right h)
  refine ⟨by simpa using hhead, ?_⟩
  have hlines : List.Forall₂ (fun r s => Row.ddlLine r = Row.ddlLine s)
      (t.rows flagged dim) (u.rows flagged' dim') := by
    refine forall₂_of_map_eq (fun r hr s hs hrs => ?_) hrows
    obtain ⟨hname, htype⟩ := Row.eq_of_previewLine_eq
      (colon_not_mem_name ht r hr) (colon_not_mem_name hu s hs) hrs
    rw [Row.ddlLine, Row.ddlLine, hname, htype]
  rw [Ddl.columnLines_eq_map, Ddl.columnLines_eq_map]
  exact map_eq_of_forall₂ (fun _ _ hrs => hrs) hlines

/-- A page with tables does not say that there are none. -/
theorem sections_ne_sections_nil (hts : ts ≠ []) :
    sections ts flags dim ≠ sections [] flags' dim' := by
  obtain ⟨t, ts, rfl⟩ := List.exists_cons_of_ne_nil hts
  intro h
  have hhead : "## " ++ t.name = "No valid tables defined." :=
    (List.cons.inj h).1
  have hchars := congrArg String.toList hhead
  simp at hchars

/-- **What the sections tell**: the tables, one by one. -/
theorem forall₂_of_sections_eq (hts : ∀ t ∈ ts, t.WellFormed)
    (hus : ∀ u ∈ us, u.WellFormed)
    (h : sections ts flags dim = sections us flags' dim') :
    List.Forall₂ (fun t u => t.name = u.name ∧
      Ddl.columnLines t (flags.marks t.name) dim =
        Ddl.columnLines u (flags'.marks u.name) dim') ts us := by
  have hclosed : ∀ (vs : List Table) (flags : Flags) (dim : Int),
      ∀ ls ∈ vs.map (fun v => tableLines v (flags.marks v.name) dim),
        IsClosed "" ls := by
    intro vs flags dim ls hls
    obtain ⟨v, -, rfl⟩ := List.mem_map.mp hls
    exact isClosed_tableLines
  by_cases htnil : ts = []
  · subst htnil
    by_cases hunil : us = []
    · subst hunil
      exact .nil
    · exact absurd h.symm (sections_ne_sections_nil hunil)
  · by_cases hunil : us = []
    · subst hunil
      exact absurd h (sections_ne_sections_nil htnil)
    · rw [sections_of_ne_nil htnil, sections_of_ne_nil hunil] at h
      refine forall₂_of_map_eq (fun t ht u hu htu => ?_)
        (flatten_inj (hclosed ts flags dim) (hclosed us flags' dim') h)
      exact eq_of_tableLines_eq (hts t ht) (hus u hu) htu

end Sections

/-- **The preview hides no difference.**  Whatever two sketches hold, and
whatever is flagged, schemas with the same page have the same script. -/
theorem script_eq_of_markdown_eq (mode mode' : ScanMode)
    (text text' : String) (p p' : DuplicatePolicy) (flags flags' : Flags)
    (dim dim' : Int)
    (h : markdown (resolveDuplicates p (tables mode text)) flags dim =
      markdown (resolveDuplicates p' (tables mode' text')) flags' dim') :
    Ddl.script (resolveDuplicates p (tables mode text)) flags dim =
      Ddl.script (resolveDuplicates p' (tables mode' text')) flags' dim' := by
  have hts := wellFormed_of_mem_resolved mode text p
  have hus := wellFormed_of_mem_resolved mode' text' p'
  refine Ddl.script_congr (forall₂_of_sections_eq hts hus ?_)
  exact sections_eq_of_markdown_eq (fun t ht => (hts t ht).isPlain)
    (fun u hu => (hus u hu).isPlain) h

/-- The page is the same for small and for capital letters in a type, for a
table in one block and one in two, and for every way to flag a table. -/
theorem script_eq_of_markdown_eq_of_likenesses :
    let ts := resolveDuplicates .keep
      (tables .balanced "T:{shape: sql_table; a: ß; b: i}")
    let us := resolveDuplicates .merge
      (tables .firstClose ("T:{shape: sql_table; a: ss}" ++
        "T:{shape: sql_table; b: I}"))
    ts ≠ us ∧
      markdown ts ⟨[("T", .bool true)]⟩ 3 =
        markdown us ⟨[("T", .int 2)]⟩ 3 ∧
      Ddl.script ts ⟨[("T", .bool true)]⟩ 3 =
        Ddl.script us ⟨[("T", .int 2)]⟩ 3 := by
  have hts : resolveDuplicates .keep
      (tables .balanced "T:{shape: sql_table; a: ß; b: i}") =
        [⟨"T", [⟨"a", "\u00df"⟩, ⟨"b", "i"⟩]⟩] := by
    decide
  have hus : resolveDuplicates .merge
      (tables .firstClose ("T:{shape: sql_table; a: ss}" ++
        "T:{shape: sql_table; b: I}")) =
        [⟨"T", [⟨"a", "ss"⟩, ⟨"b", "I"⟩]⟩] := by
    decide
  have hpage : markdown [⟨"T", [⟨"a", "\u00df"⟩, ⟨"b", "i"⟩]⟩]
      ⟨[("T", .bool true)]⟩ 3 =
        markdown [⟨"T", [⟨"a", "ss"⟩, ⟨"b", "I"⟩]⟩] ⟨[("T", .int 2)]⟩ 3 := by
    decide
  have hscript := script_eq_of_markdown_eq .balanced .firstClose
    "T:{shape: sql_table; a: ß; b: i}"
    ("T:{shape: sql_table; a: ss}" ++
      "T:{shape: sql_table; b: I}") .keep .merge
    ⟨[("T", .bool true)]⟩ ⟨[("T", .int 2)]⟩ 3 3
  rw [hts, hus] at hscript ⊢
  exact ⟨by decide, hpage, hscript hpage⟩

end TableSketch.Preview
