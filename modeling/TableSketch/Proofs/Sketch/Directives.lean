import TableSketch.Proofs.Sketch.Declared

/-!
# Where the directive stands

A body counts by its trimmed lines (`bodyLines`).  Some of them are directives:
the key `shape`, blanks, a colon, blanks and the value `sql_table`, and nothing
else (`isDirective_iff`).  A further colon, another case or another value make
an ordinary entry of the line.  Every other line with a colon between a key and
a value declares a column, and the remaining lines say nothing
(`Column.ofLine?`).

No line is both, so the columns can be read off the lines that are no
directives (`filterMap_filter_not_isDirective`), and the directives decide only
whether there is a table at all.  Hence it makes no difference where they stand
and how many there are.

## Main results

* `isDirective_iff` — the directive, character by character.
* `Block.table?_eq_some_iff_bodyLines` — the table of a block, line by line.
* `Block.table?_of_directives_anywhere` — the directives may be moved and
  repeated.
-/

namespace TableSketch

open Text

/-! ## Lines of a body -/

/-- The lines of a body, without the blanks around them. -/
def bodyLines (body : List Char) : List (List Char) :=
  (pieces isLineEnd body).map trim

theorem entries_eq_filterMap_bodyLines (body : List Char) :
    entries body = (bodyLines body).filterMap Entry.ofLine? := by
  rw [bodyLines, List.filterMap_map]
  rfl

/-- A line that makes its block a table: it is cut into the key and the value
of the directive. -/
def IsDirective (line : List Char) : Prop :=
  Entry.ofLine? line = some ⟨"shape".toList, "sql_table".toList⟩

instance : DecidablePred IsDirective :=
  fun line => inferInstanceAs (Decidable (Entry.ofLine? line = some _))

/-- What a line declares: with a colon in it, with a key in front of the colon
and a value behind it, it is a column, unless it is a directive. -/
def Column.ofLine? (line : List Char) : Option Column :=
  match Entry.ofLine? line with
  | none => none
  | some ⟨key, value⟩ =>
    if key ≠ [] ∧ value ≠ [] ∧ ¬ IsDirective line then
      some ⟨String.ofList key, String.ofList value⟩
    else none

/-! ## The directive, character by character -/

/-- **The directive.**  Its line is the key, a colon and the value; only blanks
may stand beside the colon.  So a line with a further colon is no directive. -/
theorem isDirective_iff {line : List Char} :
    IsDirective line ↔ ∃ w w', AllBlank w ∧ AllBlank w' ∧
      trim line = "shape".toList ++ w ++ ':' :: (w' ++ "sql_table".toList) := by
  rw [IsDirective, ← Entry.ofLine?_trim]
  constructor
  · intro h
    obtain ⟨key, value, hline, -, hentry⟩ := Entry.ofLine?_eq_some_iff.mp h
    obtain ⟨hkey, hvalue⟩ := Entry.mk.inj hentry
    have hcolon : ':' ∉ value :=
      not_mem_of_not_mem_tidy (hvalue ▸ by decide)
    rw [tidy_eq_trim hcolon] at hvalue
    obtain ⟨w₀, w, hw₀, hw, hkeyText⟩ := exists_eq_trim_append key
    obtain ⟨w', w₁, hw', hw₁, hvalueText⟩ := exists_eq_trim_append value
    rw [← hkey] at hkeyText
    rw [← hvalue] at hvalueText
    -- The line is trimmed, so no blanks stand at its ends.
    have htext : trim line = w₀ ++ ("shape".toList ++ w ++
        ':' :: (w' ++ "sql_table".toList) ++ w₁) := by
      rw [hline, hkeyText, hvalueText]
      simp
    have htrimmed := trim_trim line
    have hfront : w₀ = [] := by
      rw [htext] at htrimmed
      exact eq_nil_of_trim_append hw₀ htrimmed
    subst hfront
    have hback : w₁ = [] := by
      rw [htext, List.nil_append] at htrimmed
      exact eq_nil_of_append_trim hw₁ htrimmed
    subst hback
    exact ⟨w, w', hw, hw', by simpa using htext⟩
  · rintro ⟨w, w', hw, hw', hline⟩
    have hkey : ':' ∉ "shape".toList ++ w := by
      intro hmem
      rcases List.mem_append.mp hmem with hmem | hmem
      · revert hmem
        decide
      · exact absurd (hw _ hmem) (by decide)
    rw [hline, Entry.ofLine?_colon hkey, trim_append_blank hw,
      tidy_blank_append hw' isBlank_colon]
    decide

example : IsDirective " shape :\tsql_table".toList ∧
    ¬ IsDirective "shape: sql_table: x".toList := by decide

/-! ## What the lines declare -/

theorem Column.ofLine?_eq_none {line : List Char} (h : IsDirective line) :
    ofLine? line = none := by
  unfold ofLine?
  rw [show Entry.ofLine? line = some _ from h]
  exact if_neg fun hcolumn => hcolumn.2.2 h

/-- A line declares the column of its entry, if that is one. -/
theorem Column.ofLine?_eq (line : List Char) :
    ofLine? line =
      ((Entry.ofLine? line).filter Entry.isColumn).map Entry.column := by
  cases h : Entry.ofLine? line with
  | none => simp [ofLine?, h]
  | some e =>
      have hdirective : IsDirective line ↔ e = Entry.directive := by
        rw [IsDirective, h]
        exact Option.some_inj
      by_cases hcolumn : e.isColumn = true
      · have hparts := Entry.isColumn_iff.mp hcolumn
        simp [ofLine?, h, hdirective, Option.filter, hcolumn, hparts,
          Entry.column]
      · have hparts : ¬ (e.key ≠ [] ∧ e.value ≠ [] ∧ ¬ IsDirective line) := by
          rw [hdirective]
          exact fun hall => hcolumn
            (Entry.isColumn_iff.mpr ⟨hall.2.2, hall.1, hall.2.1⟩)
        simp only [ofLine?, h, if_neg hparts, Option.filter, hcolumn]
        rfl

/-- The columns of a body, line by line. -/
theorem map_column_filter_entries (body : List Char) :
    ((entries body).filter Entry.isColumn).map Entry.column =
      (bodyLines body).filterMap Column.ofLine? := by
  rw [entries_eq_filterMap_bodyLines, List.filter_filterMap,
    List.map_filterMap]
  exact congrArg (List.filterMap · _)
    (funext fun line => (Column.ofLine?_eq line).symm)

theorem directive_mem_entries_iff {body : List Char} :
    Entry.directive ∈ entries body ↔ ∃ line ∈ bodyLines body, IsDirective line := by
  rw [entries_eq_filterMap_bodyLines]
  exact List.mem_filterMap

/-- **The table of a block, line by line.** -/
theorem Block.table?_eq_some_iff_bodyLines {name body : List Char} {t : Table} :
    Block.table? ⟨name, body⟩ = some t ↔
      (∃ line ∈ bodyLines body, IsDirective line) ∧
        t = ⟨String.ofList name, (bodyLines body).filterMap Column.ofLine?⟩ := by
  rw [table?_eq_some_iff, directive_mem_entries_iff, map_column_filter_entries]

/-! ## Directives anywhere -/

/-- Directives declare nothing, so they may be left out. -/
theorem filterMap_filter_not_isDirective (ls : List (List Char)) :
    (ls.filter fun line => ¬ IsDirective line).filterMap Column.ofLine? =
      ls.filterMap Column.ofLine? := by
  induction ls with
  | nil => rfl
  | cons line ls ih =>
      by_cases h : IsDirective line
      · rw [List.filter_cons_of_neg (by simpa using h), ih,
          List.filterMap_cons, Column.ofLine?_eq_none h]
      · rw [List.filter_cons_of_pos (by simpa using h), List.filterMap_cons,
          List.filterMap_cons, ih]

/-- **The directive is a flag.**  A block is a table if and only if some line
of its body is a directive.  The columns are then, in order, what the lines
with a key and a value declare that are no directives.  So all bodies with a
directive that differ in nothing but directives describe the same table. -/
theorem Block.table?_of_directives_anywhere (name : List Char) :
    (∀ body, (Block.table? ⟨name, body⟩).isSome = true ↔
      ∃ line ∈ bodyLines body, IsDirective line) ∧
    (∀ body t, Block.table? ⟨name, body⟩ = some t →
      t = ⟨String.ofList name, (bodyLines body).filterMap Column.ofLine?⟩) ∧
    ∀ body body',
      (∃ line ∈ bodyLines body, IsDirective line) →
      (∃ line ∈ bodyLines body', IsDirective line) →
      ((bodyLines body).filter fun line => ¬ IsDirective line) =
        ((bodyLines body').filter fun line => ¬ IsDirective line) →
      Block.table? ⟨name, body⟩ = Block.table? ⟨name, body'⟩ := by
  refine ⟨fun body => ?_, fun body t h => ?_, fun body body' h h' hlines => ?_⟩
  · rw [Option.isSome_iff_exists]
    constructor
    · rintro ⟨t, ht⟩
      exact (table?_eq_some_iff_bodyLines.mp ht).1
    · exact fun h => ⟨_, table?_eq_some_iff_bodyLines.mpr ⟨h, rfl⟩⟩
  · exact (table?_eq_some_iff_bodyLines.mp h).2
  · have hcolumns : (bodyLines body).filterMap Column.ofLine? =
        (bodyLines body').filterMap Column.ofLine? := by
      rw [← filterMap_filter_not_isDirective, hlines,
        filterMap_filter_not_isDirective]
    rw [table?_eq_some_iff_bodyLines.mpr ⟨h, rfl⟩, hcolumns,
      ← table?_eq_some_iff_bodyLines.mpr ⟨h', rfl⟩]

/-- The directive at the end once, or twice around the columns, with lines that
only resemble it among them. -/
theorem Block.table?_of_directives_around :
    Block.table? ⟨"T".toList,
        "a: int\nshape: sql_table: x; shape:\nSHAPE: sql_table".toList ++
          "\nshape: sql_table".toList⟩ =
      Block.table? ⟨"T".toList,
        " shape :sql_table;a: int;shape: sql_table: x".toList ++
          ";shape:;SHAPE: sql_table;shape:sql_table".toList⟩ :=
  (table?_of_directives_anywhere "T".toList).2.2 _ _ (by decide) (by decide)
    (by decide)

end TableSketch
