import TableSketch.Preview
import TableSketch.Proofs.Schema.Resolved
import TableSketch.Proofs.Text.Joined
import TableSketch.Proofs.Text.Upper

/-!
# Rows

A table is written out row by row: its declared columns in order and, if it is
flagged, the column for vectors.  The data definition and the preview both
have one line for each row (`Ddl.columnLines_eq_map`,
`Preview.tableLines_eq_append`), so what is said about the two lines of a row
holds of all lines of a table.

Rows end neither a line nor a statement, because names and types are texts of
one line (`IsOneLine`) and upper case brings no line end in.

## Main results

* `Row.isPlain_of_mem_rows` — no line of a row holds a line feed or a
  semicolon.
* `Row.eq_of_previewLine_eq` — rows with the same line in the preview have the
  same name and type, and hence the same line in the data definition.
-/

namespace TableSketch

open Text

/-! ## Words and numbers -/

/-- Numbers are written with digits. -/
theorem isWordChar_of_mem_repr_nat {n : Nat} {x : Char} (hx : x ∈ n.repr.toList) :
    isWordChar x = true := by
  rw [Nat.toList_repr] at hx
  have hdigit := Nat.isDigit_of_mem_toDigits (by decide) (by decide) hx
  simp [isWordChar, Char.isAlphanum, hdigit]

/-- Negative ones have a sign in front. -/
theorem mem_repr_int {i : Int} {x : Char} (hx : x ∈ i.repr.toList) :
    x = '-' ∨ isWordChar x = true := by
  rw [Int.repr_eq_if] at hx
  split at hx
  · exact Or.inr (isWordChar_of_mem_repr_nat hx)
  · rw [String.toList_append] at hx
    rcases List.mem_append.mp hx with hx | hx
    · exact Or.inl (List.mem_singleton.mp hx)
    · exact Or.inr (isWordChar_of_mem_repr_nat hx)

theorem isLineEnd_of_isWordChar {x : Char} (h : isWordChar x = true) :
    isLineEnd x = false := by
  refine Bool.eq_false_iff.mpr fun hend => ?_
  rcases (by simpa [isLineEnd] using hend : x = '\n' ∨ x = ';') with rfl | rfl
  · exact absurd h (by decide)
  · exact absurd h (by decide)

/-! ## Texts of one line -/

/-- A text without line feeds and semicolons. -/
def IsOneLine (s : String) : Prop := ∀ x ∈ s.toList, isLineEnd x = false

instance (s : String) : Decidable (IsOneLine s) :=
  decidable_of_iff (s.toList.all (fun x => !isLineEnd x) = true)
    (by simp [IsOneLine])

namespace IsOneLine

variable {a b s : String}

theorem append_iff : IsOneLine (a ++ b) ↔ IsOneLine a ∧ IsOneLine b := by
  simp [IsOneLine, or_imp, forall_and]

theorem append (ha : IsOneLine a) (hb : IsOneLine b) : IsOneLine (a ++ b) :=
  append_iff.mpr ⟨ha, hb⟩

theorem not_mem_lineFeed (h : IsOneLine s) : '\n' ∉ s.toList := fun hmem =>
  absurd (h _ hmem) (by decide)

theorem not_mem_semicolon (h : IsOneLine s) : ';' ∉ s.toList := fun hmem =>
  absurd (h _ hmem) (by decide)

/-- Upper case brings no line end in. -/
theorem upper (h : IsOneLine s) : IsOneLine (Text.upper s) := by
  intro x hx
  refine Bool.eq_false_iff.mpr fun hend => ?_
  have hsign : ¬ IsCapital x.toNat := by
    rcases (by simpa [isLineEnd] using hend : x = '\n' ∨ x = ';') with
      rfl | rfl
    · decide
    · decide
  rw [h x (mem_of_mem_upper hsign hx)] at hend
  cases hend

theorem of_word (h : ∀ x ∈ s.toList, isWordChar x = true) : IsOneLine s :=
  fun x hx => isLineEnd_of_isWordChar (h x hx)

theorem repr_nat (n : Nat) : IsOneLine n.repr :=
  of_word fun _ => isWordChar_of_mem_repr_nat

theorem repr_int (i : Int) : IsOneLine i.repr := by
  intro x hx
  rcases mem_repr_int hx with rfl | hword
  · decide
  · exact isLineEnd_of_isWordChar hword

/-- Lines hold no line end as lists of characters either. -/
theorem not_mem_of_mem_map {ls : List String} (h : ∀ l ∈ ls, IsOneLine l) :
    ∀ cs ∈ ls.map String.toList, '\n' ∉ cs ∧ ';' ∉ cs := by
  intro cs hcs
  obtain ⟨l, hl, rfl⟩ := List.mem_map.mp hcs
  exact ⟨(h l hl).not_mem_lineFeed, (h l hl).not_mem_semicolon⟩

end IsOneLine

/-! ## Plain columns -/

/-- A column whose name and type are texts of one line. -/
structure Column.IsPlain (c : Column) : Prop where
  name : IsOneLine c.name
  type : IsOneLine c.type

/-- A table whose name and columns are made of texts of one line. -/
structure Table.IsPlain (t : Table) : Prop where
  name : IsOneLine t.name
  columns : ∀ c ∈ t.columns, c.IsPlain

instance (c : Column) : Decidable c.IsPlain :=
  decidable_of_iff (IsOneLine c.name ∧ IsOneLine c.type)
    ⟨fun h => ⟨h.1, h.2⟩, fun h => ⟨h.name, h.type⟩⟩

instance (t : Table) : Decidable t.IsPlain :=
  decidable_of_iff (IsOneLine t.name ∧ ∀ c ∈ t.columns, c.IsPlain)
    ⟨fun h => ⟨h.1, h.2⟩, fun h => ⟨h.name, h.columns⟩⟩

theorem Column.WellFormed.isPlain {c : Column} (h : c.WellFormed) :
    c.IsPlain := by
  have hplain : ∀ x ∈ c.name.toList ++ c.type.toList,
      isLineEnd x = false := by
    intro x hx
    obtain ⟨hfeed, hsemicolon, -⟩ := h.plain x hx
    simp [isLineEnd, hfeed, hsemicolon]
  exact ⟨fun x hx => hplain x (List.mem_append_left _ hx),
    fun x hx => hplain x (List.mem_append_right _ hx)⟩

/-- What a sketch declares is plain. -/
theorem Table.WellFormed.isPlain {t : Table} (h : t.WellFormed) :
    t.IsPlain :=
  ⟨.of_word h.name_word, fun c hc => (h.columns c hc).isPlain⟩

/-! ## Rows -/

/-- What a table is made of: declared columns and the column for vectors. -/
inductive Row where
  | declared (c : Column)
  | vector (dim : Int)
  deriving DecidableEq, Repr

/-- The rows of a table. -/
def Table.rows (t : Table) (flagged : Bool) (dim : Int) : List Row :=
  t.columns.map .declared ++ if flagged then [.vector dim] else []

theorem Table.rows_eq_nil_iff {t : Table} {flagged : Bool} {dim : Int} :
    t.rows flagged dim = [] ↔ t.columns = [] ∧ flagged = false := by
  cases flagged <;> simp [Table.rows]

namespace Row

/-- The name of a row, as it is written. -/
def name : Row → String
  | .declared c => c.name
  | .vector _ => Ddl.embeddingColumn

/-- The type of a row, as it is written. -/
def type : Row → String
  | .declared c => Text.upper c.type
  | .vector dim => Ddl.embeddingType dim

/-- What the preview says about a row behind its type. -/
def note : Row → String
  | .declared _ => ""
  | .vector _ => " (vector)"

/-- The line of a row in the data definition. -/
def ddlLine (r : Row) : String := "  " ++ r.name ++ " " ++ r.type

/-- The line of a row in the preview. -/
def previewLine (r : Row) : String :=
  "- `" ++ r.name ++ "`: " ++ r.type ++ r.note

end Row

theorem Ddl.columnLines_eq_map (t : Table) (flagged : Bool) (dim : Int) :
    Ddl.columnLines t flagged dim = (t.rows flagged dim).map Row.ddlLine := by
  have hdeclared : Row.ddlLine ∘ Row.declared = Ddl.columnLine := rfl
  cases flagged with
  | false => simp [Ddl.columnLines, Table.rows, hdeclared]
  | true => simp [Ddl.columnLines, Table.rows, hdeclared, Row.ddlLine,
      Row.name, Row.type]

theorem Preview.tableLines_eq_append (t : Table) (flagged : Bool) (dim : Int) :
    Preview.tableLines t flagged dim =
      (("## " ++ t.name) :: (t.rows flagged dim).map Row.previewLine) ++
        [""] := by
  have hdeclared : Row.previewLine ∘ Row.declared = Preview.columnLine :=
    funext fun c => String.append_empty
  cases flagged with
  | false => simp [Preview.tableLines, Table.rows, hdeclared]
  | true => simp [Preview.tableLines, Table.rows, hdeclared,
      Preview.embeddingLine, Row.previewLine, Row.name, Row.type, Row.note]

/-- What holds of the declared columns of a table and of the column for
vectors holds of the rows. -/
theorem Row.forall_mem_rows {P : Row → Prop} {t : Table} {dim : Int}
    (hdeclared : ∀ c ∈ t.columns, P (.declared c)) (hvector : P (.vector dim))
    (flagged : Bool) : ∀ r ∈ t.rows flagged dim, P r := by
  intro r hr
  rcases List.mem_append.mp hr with hr | hr
  · obtain ⟨c, hc, rfl⟩ := List.mem_map.mp hr
    exact hdeclared c hc
  · cases flagged with
    | true => exact List.mem_singleton.mp hr ▸ hvector
    | false => cases hr

/-! ## The lines of a row -/

namespace Row

/-- A row whose name and type are texts of one line. -/
structure IsPlain (r : Row) : Prop where
  name : IsOneLine r.name
  type : IsOneLine r.type

theorem isPlain_vector (dim : Int) : (vector dim).IsPlain := by
  have hname : IsOneLine Ddl.embeddingColumn := by decide
  have htype : IsOneLine (Ddl.embeddingType dim) :=
    .append (.append (by decide) (.repr_int dim)) (by decide)
  exact ⟨hname, htype⟩

theorem isPlain_of_mem_rows {t : Table} (h : t.IsPlain) (flagged : Bool)
    (dim : Int) : ∀ r ∈ t.rows flagged dim, r.IsPlain :=
  forall_mem_rows
    (fun c hc => ⟨(h.columns c hc).name, (h.columns c hc).type.upper⟩)
    (isPlain_vector dim) flagged

theorem IsPlain.ddlLine {r : Row} (h : r.IsPlain) : IsOneLine r.ddlLine :=
  .append (.append (.append (by decide) h.name) (by decide)) h.type

theorem IsPlain.previewLine {r : Row} (h : r.IsPlain) :
    IsOneLine r.previewLine := by
  have hnote : IsOneLine r.note := by
    cases r with
    | declared c => exact (by decide : IsOneLine "")
    | vector dim => exact (by decide : IsOneLine " (vector)")
  exact .append (.append (.append (.append (by decide) h.name) (by decide))
    h.type) hnote

/-- The note on the column for vectors is in small letters, and a declared type
is shown without any. -/
theorem type_declared_ne (c : Column) (s : String) :
    (declared c).type ≠ s ++ " (vector)" := by
  intro h
  have hmem : 'v' ∈ (Text.upper c.type).toList := by
    rw [show Text.upper c.type = s ++ " (vector)" from h]
    simp
  exact absurd (not_isLower_of_mem_upper hmem) (by decide)

/-- **What the preview tells of a row.**  If their names hold no colon, rows
with the same line have the same name and the same type. -/
theorem eq_of_previewLine_eq {r s : Row} (hr : ':' ∉ r.name.toList)
    (hs : ':' ∉ s.name.toList) (h : r.previewLine = s.previewLine) :
    r.name = s.name ∧ r.type = s.type := by
  have htoList : ∀ q : Row, q.previewLine.toList =
      (['-', ' ', '`'] ++ q.name.toList ++ ['`']) ++
        ':' :: (' ' :: (q.type ++ q.note).toList) := by
    intro q
    simp [previewLine]
  have hcolon : ∀ {q : Row}, ':' ∉ q.name.toList →
      ':' ∉ ['-', ' ', '`'] ++ q.name.toList ++ ['`'] := by
    intro q hq
    simp [hq]
  have hlists := congrArg String.toList h
  rw [htoList, htoList] at hlists
  obtain ⟨hfront, hback⟩ := append_cons_inj (hcolon hr) (hcolon hs) hlists
  have hname : r.name = s.name := by
    simpa [String.toList_inj] using hfront
  have htype : r.type ++ r.note = s.type ++ s.note :=
    String.toList_inj.mp (List.cons.inj hback).2
  refine ⟨hname, ?_⟩
  cases r with
  | declared c =>
      cases s with
      | declared d => simpa [note] using htype
      | vector dim =>
          refine absurd ?_ (type_declared_ne c (type (.vector dim)))
          simpa [note] using htype
  | vector dim =>
      cases s with
      | declared d =>
          refine absurd ?_ (type_declared_ne d (type (.vector dim)))
          simpa [note] using htype.symm
      | vector dim' => simpa [note] using htype

end Row

end TableSketch
