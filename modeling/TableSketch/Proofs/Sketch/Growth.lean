import TableSketch.Proofs.Sketch.Modes

/-!
# Sketches that grow

A sketch is read anew on every key stroke, so what was read already should
stay.  It does: reading on from the state that a text leads to gives more
blocks behind those of the text itself (`blocksFrom_append`), whatever is
appended, be it the missing brace of a block or the rest of a heading.

Only a closing brace ever completes a block, so one more character is worth at
most one table, and none unless it is a closing brace
(`ScanState.blockAt?_eq_none`).

## Main results

* `tables_append` — the tables of a text are the first of those of any text
  that begins with it.
* `tables_grow` — and how many a single character may add.
-/

namespace TableSketch

/-! ## Reading on -/

/-- The blocks of a text are those of its beginning, and what reading on from
there gives. -/
theorem blocksFrom_append (mode : ScanMode) (s : ScanState)
    (a b : List Char) :
    blocksFrom mode s (a ++ b) =
      blocksFrom mode s a ++ blocksFrom mode (s.after mode a) b := by
  induction a generalizing s with
  | nil =>
      rw [blocksFrom_nil]
      rfl
  | cons c a ih =>
      rw [List.cons_append, blocksFrom_cons, blocksFrom_cons, ih,
        ScanState.after_cons, List.append_assoc]

/-- The tables that reading from a state on gives. -/
def tablesFrom (mode : ScanMode) (s : ScanState) (text : List Char) :
    List Table :=
  (blocksFrom mode s text).filterMap Block.table?

theorem tables_eq_tablesFrom (mode : ScanMode) (text : String) :
    tables mode text = tablesFrom mode .outside text.toList :=
  tables_eq_filterMap_blocks mode text

theorem tablesFrom_append (mode : ScanMode) (s : ScanState)
    (a b : List Char) :
    tablesFrom mode s (a ++ b) =
      tablesFrom mode s a ++ tablesFrom mode (s.after mode a) b := by
  rw [tablesFrom, blocksFrom_append, List.filterMap_append]
  rfl

/-- The table that a character completes, if it completes one. -/
def ScanState.tableAt? (mode : ScanMode) (s : ScanState) (c : Char) :
    Option Table :=
  (s.blockAt? mode c).bind Block.table?

theorem tablesFrom_nil (mode : ScanMode) (s : ScanState) :
    tablesFrom mode s [] = [] := by
  rw [tablesFrom, blocksFrom_nil]
  rfl

theorem tablesFrom_cons (mode : ScanMode) (s : ScanState) (c : Char)
    (cs : List Char) :
    tablesFrom mode s (c :: cs) =
      (s.tableAt? mode c).toList ++ tablesFrom mode (s.step mode c).1 cs := by
  rw [tablesFrom, blocksFrom_cons, List.filterMap_append, ← tablesFrom,
    ScanState.tableAt?]
  rcases s.blockAt? mode c with _ | b
  · rfl
  · cases h : b.table? <;> simp [h]

/-- What is appended to a text puts its tables behind those of the text. -/
theorem tables_append (mode : ScanMode) (text more : String) :
    tables mode (text ++ more) =
      tables mode text ++
        tablesFrom mode (ScanState.after mode .outside text.toList)
          more.toList := by
  rw [tables_eq_tablesFrom, tables_eq_tablesFrom, String.toList_append,
    tablesFrom_append]

/-! ## One more character -/

namespace ScanState

/-- Outside bodies no character completes a block. -/
theorem blockAt?_of_not_inBody {s : ScanState} (hs : ¬ s.InBody)
    (mode : ScanMode) (c : Char) : s.blockAt? mode c = none := by
  rw [blockAt?, (step_of_not_inBody hs c).1 mode]
  rfl

/-- Only a closing brace completes a block. -/
theorem blockAt?_eq_none (mode : ScanMode) (s : ScanState) {c : Char}
    (hc : c ≠ '}') : s.blockAt? mode c = none := by
  rcases s.inBody_cases with hbody | ⟨name, content, depth, nested, rfl⟩
  · exact blockAt?_of_not_inBody hbody mode c
  · by_cases hopen : c = '{' ∧ mode = .balanced
    · simp [blockAt?, step, hopen]
    · simp [blockAt?, step, hc, hopen]

theorem tableAt?_eq_none (mode : ScanMode) (s : ScanState) {c : Char}
    (hc : c ≠ '}') : s.tableAt? mode c = none := by
  rw [tableAt?, blockAt?_eq_none mode s hc]
  rfl

end ScanState

/-- One more character completes a table or leaves the tables as they are. -/
theorem tables_push (mode : ScanMode) (text : String) (c : Char) :
    tables mode (text.push c) = tables mode text ++
      ((ScanState.after mode .outside text.toList).tableAt? mode c).toList := by
  rw [tables_eq_tablesFrom, tables_eq_tablesFrom, String.toList_push,
    tablesFrom_append, tablesFrom_cons, tablesFrom_nil, List.append_nil]

/-- A text as it stands when `n` of its characters have been typed. -/
def typed (text : String) (n : Nat) : String :=
  String.ofList (text.toList.take n)

theorem typed_succ (text : String) (n : Nat) :
    typed text (n + 1) = typed text n ∨
      ∃ c, typed text (n + 1) = (typed text n).push c := by
  by_cases hn : n < text.toList.length
  · refine Or.inr ⟨text.toList[n], ?_⟩
    rw [← String.toList_inj, String.toList_push, typed, typed,
      String.toList_ofList, String.toList_ofList,
      List.take_succ_eq_append_getElem hn]
  · refine Or.inl ?_
    rw [typed, typed, List.take_of_length_le (by omega),
      List.take_of_length_le (by omega)]

/-- **Typing at the end.**  Whatever is appended, the tables found so far stay
where they are.  One character adds at most one table, and none unless it is a
closing brace; so the tables grow by at most one from each beginning of a text
to the next. -/
theorem tables_grow (mode : ScanMode) (text more : String) (c : Char) :
    tables mode text <+: tables mode (text ++ more) ∧
      (∃ t? : Option Table,
        tables mode (text.push c) = tables mode text ++ t?.toList ∧
          (c ≠ '}' → t? = none)) ∧
      ∀ n, ∃ t? : Option Table,
        tables mode (typed text (n + 1)) =
          tables mode (typed text n) ++ t?.toList := by
  refine ⟨?_, ⟨_, tables_push mode text c, fun hc => ?_⟩, fun n => ?_⟩
  · rw [tables_append]
    exact List.prefix_append _ _
  · exact ScanState.tableAt?_eq_none mode _ hc
  · rcases typed_succ text n with hsame | ⟨d, hpush⟩
    · exact ⟨none, by rw [hsame]; simp⟩
    · exact ⟨_, by rw [hpush, tables_push]⟩

/-- A half-typed heading, completed later, does not disturb the table in front
of it. -/
theorem tables_grow_of_half_heading :
    'b' ≠ '}' ∧
      tables .balanced "T:{shape: sql_table} U" <+:
        tables .balanced
          ("T:{shape: sql_table} U" ++ ": {shape: sql_table}") ∧
      tables .balanced ("T:{shape: sql_table} U".push 'b') =
        tables .balanced "T:{shape: sql_table} U" := by
  have hgrow := tables_grow .balanced "T:{shape: sql_table} U"
    ": {shape: sql_table}" 'b'
  obtain ⟨hmore, ⟨t?, hpush, hnone⟩, -⟩ := hgrow
  refine ⟨by decide, hmore, ?_⟩
  rw [hpush, hnone (by decide)]
  simp

end TableSketch
