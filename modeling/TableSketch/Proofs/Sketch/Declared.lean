import TableSketch.Proofs.Sketch.Entries
import TableSketch.Proofs.Sketch.Layout
import TableSketch.Proofs.Sketch.Modes

/-!
# What a sketch can declare

However malformed a text is, the tables found in it are well formed.  A name
is an ASCII word.  A column holds nothing that ends a line or a body, its name
holds no colon, blanks are found at the ends of neither the name nor any piece
of the type, and neither is empty (`Column.WellFormed`).  Whatever is written
out of such columns line by line can be told apart again.

The conditions come from the three stages of reading: the layout of a text
gives the names and keeps closing braces out of bodies
(`enclosed_of_mem_blocks`), the lines of a body keep line ends out of entries, and
the pieces of a line are trimmed (`Entry.IsTidy`).

## Main results

* `Block.table?_eq_some_iff` — the table of a block in terms of its entries.
* `wellFormed_of_mem_tables` — all tables of a sketch are well formed, and
  those of a balanced reading hold no opening brace.
-/

namespace TableSketch

open Text

/-! ## Columns and entries -/

/-- The entry that declares a column. -/
def Column.entry (c : Column) : Entry := ⟨c.name.toList, c.type.toList⟩

@[simp]
theorem Column.column_entry (c : Column) : c.entry.column = c := by
  simp [Column.entry, Entry.column]

@[simp]
theorem Entry.entry_column (e : Entry) : e.column.entry = e := by
  simp [Column.entry, Entry.column]

theorem Entry.isColumn_iff {e : Entry} :
    e.isColumn = true ↔ e ≠ Entry.directive ∧ e.key ≠ [] ∧ e.value ≠ [] := by
  simp [Entry.isColumn, and_assoc]

/-! ## Well-formed tables -/

/-- A column as a sketch can declare it. -/
structure Column.WellFormed (c : Column) : Prop where
  name_ne_empty : c.name ≠ ""
  type_ne_empty : c.type ≠ ""
  tidy : c.entry.IsTidy
  plain : ∀ x ∈ c.name.toList ++ c.type.toList,
    x ≠ '\n' ∧ x ≠ ';' ∧ x ≠ '}'
  not_directive : c ≠ ⟨"shape", "sql_table"⟩

/-- A table as a sketch can declare it. -/
structure Table.WellFormed (t : Table) : Prop where
  name_ne_empty : t.name ≠ ""
  name_word : ∀ x ∈ t.name.toList, isWordChar x = true
  columns : ∀ c ∈ t.columns, c.WellFormed

/-- No brace opens in the columns. -/
def Table.IsFlat (t : Table) : Prop :=
  ∀ c ∈ t.columns, '{' ∉ c.name.toList ++ c.type.toList

instance (e : Entry) : Decidable e.IsTidy :=
  decidable_of_iff
    (trim e.key = e.key ∧ ':' ∉ e.key ∧
      ∀ p ∈ pieces (· == ':') e.value, trim p = p)
    ⟨fun h => ⟨h.1, h.2.1, h.2.2⟩,
      fun h => ⟨h.key_trimmed, h.key_colon, h.value_trimmed⟩⟩

instance (c : Column) : Decidable c.WellFormed :=
  decidable_of_iff
    (c.name ≠ "" ∧ c.type ≠ "" ∧ c.entry.IsTidy ∧
      (c.name.toList ++ c.type.toList).all
        (fun x => x ≠ '\n' ∧ x ≠ ';' ∧ x ≠ '}') = true ∧
      c ≠ ⟨"shape", "sql_table"⟩)
    ⟨fun h => ⟨h.1, h.2.1, h.2.2.1,
        fun x hx => of_decide_eq_true (List.all_eq_true.mp h.2.2.2.1 x hx),
        h.2.2.2.2⟩,
      fun h => ⟨h.name_ne_empty, h.type_ne_empty, h.tidy,
        List.all_eq_true.mpr fun x hx => decide_eq_true (h.plain x hx),
        h.not_directive⟩⟩

instance (t : Table) : Decidable t.WellFormed :=
  decidable_of_iff
    (t.name ≠ "" ∧ t.name.toList.all isWordChar = true ∧
      ∀ c ∈ t.columns, c.WellFormed)
    ⟨fun h => ⟨h.1, List.all_eq_true.mp h.2.1, h.2.2⟩,
      fun h => ⟨h.name_ne_empty, List.all_eq_true.mpr h.name_word,
        h.columns⟩⟩

instance (t : Table) : Decidable t.IsFlat :=
  inferInstanceAs (Decidable (∀ c ∈ t.columns, _))

/-! ## From entries to columns -/

/-- The columns that the entries of a body declare are well formed. -/
theorem Entry.wellFormed_column {body : List Char} {e : Entry}
    (hbody : '}' ∉ body) (he : e ∈ entries body) (hcolumn : e.isColumn = true) :
    e.column.WellFormed := by
  obtain ⟨hdirective, hkey, hvalue⟩ := isColumn_iff.mp hcolumn
  refine ⟨by simpa [column] using hkey, by simpa [column] using hvalue, ?_, ?_,
    ?_⟩
  · rw [entry_column]
    exact isTidy_of_mem_entries he
  · intro x hx
    obtain ⟨hmem, hlineEnd⟩ :=
      mem_of_mem_entries he (by simpa [column] using hx)
    obtain ⟨hnewline, hsemicolon⟩ : x ≠ '\n' ∧ x ≠ ';' := by
      simpa [isLineEnd] using hlineEnd
    exact ⟨hnewline, hsemicolon, fun e => hbody (e ▸ hmem)⟩
  · intro h
    have hentry := congrArg Column.entry h
    rw [entry_column] at hentry
    exact hdirective hentry

/-- The table of a block: it has the directive, and its other complete entries
are the columns. -/
theorem Block.table?_eq_some_iff {b : Block} {t : Table} :
    b.table? = some t ↔
      Entry.directive ∈ entries b.body ∧
        t = ⟨String.ofList b.name,
          ((entries b.body).filter Entry.isColumn).map Entry.column⟩ := by
  simp only [Block.table?, List.contains_iff_mem]
  split
  · next hdirective => simp [hdirective, eq_comm]
  · next hdirective => simp [hdirective]

/-- A block without closing brace whose name is a word describes a well-formed
table, if it describes any. -/
theorem Block.wellFormed_of_table? {b : Block} {t : Table}
    (hname : b.name ≠ []) (hword : ∀ x ∈ b.name, isWordChar x = true)
    (hbody : '}' ∉ b.body) (h : b.table? = some t) : t.WellFormed := by
  obtain ⟨-, rfl⟩ := table?_eq_some_iff.mp h
  refine ⟨by simpa using hname, by simpa using hword, ?_⟩
  intro c hc
  obtain ⟨e, he, rfl⟩ := List.mem_map.mp hc
  obtain ⟨hmem, hcolumn⟩ := List.mem_filter.mp he
  exact e.wellFormed_column hbody hmem hcolumn

/-- If no brace opens in a block, none opens in the columns of its table. -/
theorem Block.isFlat_of_table? {b : Block} {t : Table} (hflat : b.isFlat = true)
    (h : b.table? = some t) : t.IsFlat := by
  obtain ⟨-, rfl⟩ := table?_eq_some_iff.mp h
  intro c hc hopen
  obtain ⟨e, he, rfl⟩ := List.mem_map.mp hc
  obtain ⟨hmem, -⟩ := List.mem_filter.mp he
  have hopen' : '{' ∈ e.key ++ e.value := by simpa [Entry.column] using hopen
  exact isFlat_iff.mp hflat (mem_of_mem_entries hmem hopen').1

/-! ## From texts to blocks -/

theorem Layout.exists_of_mem_blocks {C : List Char → Prop} {l : Layout C}
    {b : Block} (h : b ∈ l.blocks) : ∃ e : Enclosed C, e.block = b := by
  induction l with
  | last gap => cases h
  | block gap e rest ih =>
      rcases List.mem_cons.mp h with rfl | h
      · exact ⟨e, rfl⟩
      · exact ih h

/-- The blocks of a text are enclosed bodies; the balanced ones are flat. -/
theorem enclosed_of_mem_blocks {mode : ScanMode} {text : List Char} {b : Block}
    (h : b ∈ blocks mode text) :
    (∃ e : Enclosed IsBody, e.block = b) ∧
      (mode = .balanced → b.isFlat = true) := by
  have hfirst : ∀ b ∈ blocks .firstClose text,
      ∃ e : Enclosed IsBody, e.block = b := by
    intro b hb
    obtain ⟨l, -, -, hblocks⟩ :=
      exists_leftmost text [] [] not_endsInWord_nil clear_nil
    rw [blocks_eq_blocksFrom, hblocks] at hb
    exact Layout.exists_of_mem_blocks hb
  cases mode with
  | firstClose => exact ⟨hfirst b h, by simp⟩
  | balanced =>
      obtain ⟨hmem, hflat⟩ := List.mem_filter.mp
        ((blocks_balanced_sublist_filter text).subset h)
      exact ⟨hfirst b hmem, fun _ => hflat⟩

/-- What is in the body of a block is in the text that is laid out. -/
theorem Layout.mem_text_of_mem_blocks {C : List Char → Prop} {l : Layout C}
    {b : Block} (h : b ∈ l.blocks) {x : Char} (hx : x ∈ b.body) : x ∈ l.text := by
  induction l with
  | last gap => cases h
  | block gap e rest ih =>
      rw [text, List.mem_append, List.mem_append]
      rcases List.mem_cons.mp h with rfl | h
      · refine Or.inr (Or.inl ?_)
        rw [Enclosed.text, List.mem_append, List.mem_append]
        exact Or.inr (Or.inl hx)
      · exact Or.inr (Or.inr (ih h))

theorem mem_of_mem_blocks {mode : ScanMode} {text : List Char} {b : Block}
    (h : b ∈ blocks mode text) {x : Char} (hx : x ∈ b.body) : x ∈ text := by
  obtain ⟨l, htext, -, hblocks⟩ :=
    exists_leftmost text [] [] not_endsInWord_nil clear_nil
  rw [← blocks_eq_blocksFrom] at hblocks
  have hfirst : b ∈ blocks .firstClose text := by
    cases mode with
    | firstClose => exact h
    | balanced =>
        exact (List.mem_filter.mp
          ((blocks_balanced_sublist_filter text).subset h)).1
  rw [hblocks] at hfirst
  have hmem := Layout.mem_text_of_mem_blocks hfirst hx
  rw [htext] at hmem
  exact hmem

/-- The characters of a column are those of the text. -/
theorem mem_of_mem_tables {mode : ScanMode} {text : String} {t : Table}
    (ht : t ∈ tables mode text) {c : Column} (hc : c ∈ t.columns) {x : Char}
    (hx : x ∈ c.name.toList ++ c.type.toList) : x ∈ text.toList := by
  rw [tables_eq_filterMap_blocks] at ht
  obtain ⟨b, hb, htable⟩ := List.mem_filterMap.mp ht
  obtain ⟨-, rfl⟩ := Block.table?_eq_some_iff.mp htable
  obtain ⟨e, he, rfl⟩ := List.mem_map.mp hc
  obtain ⟨hmem, -⟩ := List.mem_filter.mp he
  have hentry : x ∈ e.key ++ e.value := by simpa [Entry.column] using hx
  exact mem_of_mem_blocks hb (mem_of_mem_entries hmem hentry).1

/-- **Whatever a sketch declares is well formed.**  In a balanced reading
moreover no brace opens in a column. -/
theorem wellFormed_of_mem_tables (mode : ScanMode) (text : String) :
    ∀ t ∈ tables mode text,
      t.WellFormed ∧ (mode = .balanced → t.IsFlat) := by
  intro t ht
  rw [tables_eq_filterMap_blocks] at ht
  obtain ⟨b, hb, htable⟩ := List.mem_filterMap.mp ht
  obtain ⟨⟨e, rfl⟩, hflat⟩ := enclosed_of_mem_blocks hb
  refine ⟨?_, fun hmode => Block.isFlat_of_table? (hflat hmode) htable⟩
  exact Block.wellFormed_of_table? e.name_ne_nil e.name_word e.holds.2 htable

/-- Stray colons, semicolons and braces leave a well-formed table. -/
theorem wellFormed_of_stray_colons :
    (⟨"T", [⟨"a", "::b"⟩]⟩ : Table) ∈ tables .balanced
        r"}é T:{shape:sql_table; a : : :b;;: x} U:{" ∧
      (⟨"T", [⟨"a", "::b"⟩]⟩ : Table).WellFormed ∧
      (⟨"T", [⟨"a", "::b"⟩]⟩ : Table).IsFlat := by
  have hmem : (⟨"T", [⟨"a", "::b"⟩]⟩ : Table) ∈ tables .balanced
      r"}é T:{shape:sql_table; a : : :b;;: x} U:{" := by
    decide
  have hwell := wellFormed_of_mem_tables .balanced _ _ hmem
  exact ⟨hmem, hwell.1, hwell.2 rfl⟩

end TableSketch
