import TableSketch.Proofs.Output.Script

/-!
# The lines of a script

Cut at its line feeds, a statement falls into its head, the lines of its
columns and its last line (`pieces_tableStatement`).  The lines of the columns
have commas behind them, all but the last one.  A table without rows is the
odd one: between its head and its last line there is still a line, and it is
empty (`mem_pieces_statementBody`).

Between statements there is one more line, which is empty, too.  So there are
few kinds of lines, and what holds of each kind holds of all lines of a script
(`forall_mem_pieces_script`).

## Main results

* `pieces_tableStatement` — the lines of a statement.
* `forall_mem_pieces_script` — the kinds of lines in a script.
-/

namespace TableSketch.Ddl

open Text

/-- What stands between the first and the last line of a statement. -/
def statementBody (t : Table) (flagged : Bool) (dim : Int) : List Char :=
  [',', '\n'].intercalate ((columnLines t flagged dim).map String.toList)

section Statement

variable {t : Table} {flagged : Bool} {dim : Int}

theorem toList_tableStatement_lines (t : Table) (flagged : Bool) (dim : Int) :
    (tableStatement t flagged dim).toList =
      statementHead t ++
        '\n' :: (statementBody t flagged dim ++ '\n' :: [')', ';']) := by
  rw [toList_tableStatement, toList_statementFront, String.toList_intercalate,
    List.append_assoc]
  rfl

/-- **The lines of a statement.** -/
theorem pieces_tableStatement (h : t.IsPlain) :
    pieces (· == '\n') (tableStatement t flagged dim).toList =
      statementHead t ::
        (pieces (· == '\n') (statementBody t flagged dim) ++
          [[')', ';']]) := by
  rw [toList_tableStatement_lines, pieces_append_cons (by rfl),
    pieces_append_cons (by rfl),
    pieces_eq_singleton (beq_eq_false_of_not_mem (not_mem_statementHead h).1)]
  rfl

/-- A line between the head and the last line is empty if there are no rows,
and otherwise it is the line of a row, perhaps with a comma. -/
theorem mem_pieces_statementBody (h : t.IsPlain) {l : List Char}
    (hl : l ∈ pieces (· == '\n') (statementBody t flagged dim)) :
    (t.rows flagged dim = [] ∧ l = []) ∨
      ∃ r ∈ t.rows flagged dim,
        l = r.ddlLine.toList ∨ l = r.ddlLine.toList ++ [','] := by
  have hcomma : '\n' ∉ [','] := by decide
  rcases mem_pieces_intercalate '\n' hcomma
    (not_mem_of_mem_map_columnLines h) hl with ⟨hnone, rfl⟩ | ⟨cs, hcs, hl⟩
  · rw [columnLines_eq_map, List.map_eq_nil_iff, List.map_eq_nil_iff] at hnone
    exact Or.inl ⟨hnone, rfl⟩
  · obtain ⟨line, hline, rfl⟩ := List.mem_map.mp hcs
    rw [columnLines_eq_map] at hline
    obtain ⟨r, hr, rfl⟩ := List.mem_map.mp hline
    exact Or.inr ⟨r, hr, hl⟩

/-- What holds of the kinds of lines holds of the lines of a statement. -/
theorem forall_mem_pieces_tableStatement {P : List Char → Prop}
    (h : t.IsPlain) (hempty : P []) (hhead : P (statementHead t))
    (hrow : ∀ r ∈ t.rows flagged dim,
      P r.ddlLine.toList ∧ P (r.ddlLine.toList ++ [',']))
    (hlast : P [')', ';']) :
    ∀ l ∈ pieces (· == '\n') (tableStatement t flagged dim).toList, P l := by
  intro l hl
  rw [pieces_tableStatement h, List.mem_cons, List.mem_append] at hl
  rcases hl with rfl | hl | hl
  · exact hhead
  · rcases mem_pieces_statementBody h hl with ⟨-, rfl⟩ | ⟨r, hr, rfl | rfl⟩
    · exact hempty
    · exact (hrow r hr).1
    · exact (hrow r hr).2
  · obtain rfl := List.mem_singleton.mp hl
    exact hlast

end Statement

/-- **The kinds of lines in a script.**  What holds of an empty line, of the
heads, rows and last lines of the tables, and of the lines that stand for a
schema without tables, holds of all lines. -/
theorem forall_mem_pieces_script {P : List Char → Prop} {ts : List Table}
    {flags : Flags} {dim : Int} (h : ∀ t ∈ ts, t.IsPlain) (hempty : P [])
    (hhead : ∀ t ∈ ts, P (statementHead t))
    (hrow : ∀ t ∈ ts, ∀ r ∈ t.rows (flags.marks t.name) dim,
      P r.ddlLine.toList ∧ P (r.ddlLine.toList ++ [',']))
    (hlast : P [')', ';'])
    (hnone : ∀ l ∈ pieces (· == '\n') emptyScript.toList, P l) :
    ∀ l ∈ pieces (· == '\n') (script ts flags dim).toList, P l := by
  induction ts with
  | nil => exact hnone
  | cons t ts ih =>
      have hstatement : ∀ l ∈ pieces (· == '\n')
          (tableStatement t (flags.marks t.name) dim).toList, P l :=
        forall_mem_pieces_tableStatement (h t (by simp)) hempty
          (hhead t (by simp)) (hrow t (by simp)) hlast
      cases ts with
      | nil => exact hstatement
      | cons u us =>
          have hrest := ih (fun v hv => h v (by simp [hv]))
            (fun v hv => hhead v (by simp [hv]))
            (fun v hv => hrow v (by simp [hv]))
          intro l hl
          rw [toList_script_cons_cons, pieces_append_cons (by rfl),
            pieces_append_cons (by rfl), List.mem_append,
            List.mem_append] at hl
          rcases hl with hl | hl | hl
          · exact hstatement l hl
          · obtain rfl := List.mem_singleton.mp hl
            exact hempty
          · exact hrest l hl

end TableSketch.Ddl
