import TableSketch.Proofs.Schema.Rows

/-!
# Reading a script back

Names and types come from texts that anybody may have written, and they are
put into the data definition as they are, types in upper case.  All the same a
script says what its statements are, and a statement says what the lines of
its columns are.

A statement holds a single semicolon, and it is the last character
(`isClosed_tableStatement`).  So the statements are the pieces of the script
cut behind every semicolon, apart from the blank lines between them
(`closedPieces_script`).  Inside a statement the first line feed ends the
name, and every further one the line of a column; that a line may itself end
with a comma does no harm, because only the comma in front of a line feed is
left out (`columnLines_eq_of_joined_eq`).

## Main results

* `semicolons_script` — one statement for each table, and no more.
* `script_eq_iff` — when two schemas have the same script.
-/

namespace TableSketch.Ddl

open Text

/-! ## One statement -/

/-- The first line of a statement. -/
def statementHead (t : Table) : List Char :=
  "CREATE TABLE ".toList ++ t.name.toList ++ [' ', '(']

/-- The lines of a statement above its last one. -/
def statementFront (t : Table) (flagged : Bool) (dim : Int) : String :=
  "CREATE TABLE " ++ t.name ++ " (\n" ++
    ",\n".intercalate (columnLines t flagged dim)

theorem toList_tableStatement (t : Table) (flagged : Bool) (dim : Int) :
    (tableStatement t flagged dim).toList =
      (statementFront t flagged dim).toList ++ ['\n', ')', ';'] := by
  have hfront : tableStatement t flagged dim =
      statementFront t flagged dim ++ "\n);" := rfl
  rw [hfront, String.toList_append]
  rfl

/-- The first line of a statement, and the lines of the columns. -/
theorem toList_statementFront (t : Table) (flagged : Bool) (dim : Int) :
    (statementFront t flagged dim).toList =
      statementHead t ++
        '\n' :: (",\n".intercalate (columnLines t flagged dim)).toList := by
  unfold statementFront statementHead
  simp

section Plain

variable {t u : Table} {flagged flagged' : Bool} {dim dim' : Int}

/-- A name does not end the first line. -/
theorem not_mem_statementHead (h : t.IsPlain) :
    '\n' ∉ statementHead t ∧ ';' ∉ statementHead t := by
  unfold statementHead
  simp [h.name.not_mem_lineFeed, h.name.not_mem_semicolon]

/-- No line of a column holds a line feed or a semicolon. -/
theorem isOneLine_of_mem_columnLines (h : t.IsPlain) :
    ∀ l ∈ columnLines t flagged dim, IsOneLine l := by
  intro l hl
  rw [columnLines_eq_map] at hl
  obtain ⟨r, hr, rfl⟩ := List.mem_map.mp hl
  exact (Row.isPlain_of_mem_rows h flagged dim r hr).ddlLine

/-- As lists of characters they hold no line feed either. -/
theorem not_mem_of_mem_map_columnLines (h : t.IsPlain) :
    ∀ cs ∈ (columnLines t flagged dim).map String.toList, '\n' ∉ cs :=
  fun cs hcs => (IsOneLine.not_mem_of_mem_map
    (isOneLine_of_mem_columnLines h) cs hcs).1

theorem ne_empty_of_mem_columnLines :
    ∀ l ∈ columnLines t flagged dim, l ≠ "" := by
  intro l hl
  rw [columnLines_eq_map] at hl
  obtain ⟨r, -, rfl⟩ := List.mem_map.mp hl
  simp [Row.ddlLine]

theorem not_mem_statementFront (h : t.IsPlain) :
    ';' ∉ (statementFront t flagged dim).toList := by
  have hlines : ';' ∉ [',', '\n'].intercalate
      ((columnLines t flagged dim).map String.toList) := by
    intro hmem
    rcases mem_intercalate hmem with hmem | ⟨cs, hcs, hmem⟩
    · exact absurd hmem (by decide)
    · exact (IsOneLine.not_mem_of_mem_map
        (isOneLine_of_mem_columnLines h) cs hcs).2 hmem
  rw [toList_statementFront]
  simp [(not_mem_statementHead h).2, hlines]

/-- **The semicolon of a statement** is its last character. -/
theorem isClosed_tableStatement (h : t.IsPlain) :
    IsClosed ';' (tableStatement t flagged dim).toList := by
  refine ⟨(statementFront t flagged dim).toList ++ ['\n', ')'], ?_, ?_⟩
  · rw [toList_tableStatement]
    simp
  · simp [not_mem_statementFront h]

/-- The line of a statement that holds the semicolon. -/
theorem eq_of_mem_pieces_tableStatement (h : t.IsPlain) {line : List Char}
    (hline : line ∈ pieces (· == '\n') (tableStatement t flagged dim).toList)
    (hmem : ';' ∈ line) : line = [')', ';'] := by
  rw [toList_tableStatement, pieces_append_cons (by rfl)] at hline
  rcases List.mem_append.mp hline with hline | hline
  · exact absurd (mem_of_mem_pieces hline hmem) (not_mem_statementFront h)
  · exact List.mem_singleton.mp hline

/-! ## The lines of a statement -/

/-- Column lines are told apart when they are joined. -/
theorem columnLines_eq_of_joined_eq (ht : t.IsPlain) (hu : u.IsPlain)
    (h : ",\n".intercalate (columnLines t flagged dim) =
      ",\n".intercalate (columnLines u flagged' dim')) :
    columnLines t flagged dim = columnLines u flagged' dim' := by
  have hempty : ∀ (v : Table) (b : Bool) (d : Int),
      [] ∉ (columnLines v b d).map String.toList := by
    intro v b d hmem
    obtain ⟨l, hl, hnil⟩ := List.mem_map.mp hmem
    exact ne_empty_of_mem_columnLines l hl (String.toList_eq_nil_iff.mp hnil)
  have hchars := congrArg String.toList h
  rw [String.toList_intercalate, String.toList_intercalate] at hchars
  have hcomma : '\n' ∉ [','] := by decide
  have hlists := intercalate_inj_of_ne_nil '\n' hcomma (hempty t flagged dim)
    (hempty u flagged' dim') (not_mem_of_mem_map_columnLines ht)
    (not_mem_of_mem_map_columnLines hu) hchars
  exact (List.map_inj_right fun _ _ => String.toList_inj.mp).mp hlists

/-- **What a statement tells**: the name and the lines of the columns. -/
theorem eq_of_tableStatement_eq (ht : t.IsPlain) (hu : u.IsPlain)
    (h : tableStatement t flagged dim = tableStatement u flagged' dim') :
    t.name = u.name ∧
      columnLines t flagged dim = columnLines u flagged' dim' := by
  have hchars := congrArg String.toList h
  rw [toList_tableStatement, toList_tableStatement] at hchars
  have hfront := List.append_cancel_right hchars
  rw [toList_statementFront, toList_statementFront] at hfront
  obtain ⟨hhead, hlines⟩ := append_cons_inj (not_mem_statementHead ht).1
    (not_mem_statementHead hu).1 hfront
  have hname : t.name = u.name := by
    unfold statementHead at hhead
    simpa [String.toList_inj] using hhead
  refine ⟨hname, ?_⟩
  exact columnLines_eq_of_joined_eq ht hu (String.toList_inj.mp hlines)

end Plain

/-! ## Scripts -/

/-- The statements of a schema, each with the blank line in front of it. -/
def parts : List (List Char) → List (List Char)
  | [] => []
  | s :: ss => s :: ss.map (['\n', '\n'] ++ ·)

section Script

variable {ts us : List Table} {flags flags' : Flags} {dim dim' : Int}

/-- The statements of a schema. -/
def statements (ts : List Table) (flags : Flags) (dim : Int) :
    List (List Char) :=
  ts.map fun t => (tableStatement t (flags.marks t.name) dim).toList

theorem toList_script (hts : ts ≠ []) (flags : Flags) (dim : Int) :
    (script ts flags dim).toList =
      (parts (statements ts flags dim)).flatten := by
  obtain ⟨t, ts, rfl⟩ := List.exists_cons_of_ne_nil hts
  have hcons : (t :: ts).isEmpty = false := rfl
  rw [script, hcons, if_neg Bool.false_ne_true, String.toList_intercalate,
    List.map_map, List.map_cons, intercalate_cons_eq_flatten]
  rfl

/-- Every statement ends with its semicolon, the blank line in front of it
included. -/
theorem isClosed_of_mem_parts (h : ∀ t ∈ ts, t.IsPlain) :
    ∀ p ∈ parts (statements ts flags dim), IsClosed ';' p := by
  cases ts with
  | nil => exact fun p hp => nomatch hp
  | cons t ts =>
      intro p hp
      rcases List.mem_cons.mp hp with rfl | hp
      · exact isClosed_tableStatement (h t (by simp))
      · obtain ⟨s, hs, rfl⟩ := List.mem_map.mp hp
        obtain ⟨u, hu, rfl⟩ := List.mem_map.mp hs
        obtain ⟨front, hfront, hmem⟩ :=
          isClosed_tableStatement (h u (by simp [hu]))
        refine ⟨['\n', '\n'] ++ front, ?_, by simp [hmem]⟩
        rw [hfront, List.append_assoc]

/-- **The statements of a script** are its pieces, cut behind every
semicolon. -/
theorem closedPieces_script (h : ∀ t ∈ ts, t.IsPlain) :
    closedPieces ';' (script ts flags dim).toList =
      parts (statements ts flags dim) := by
  cases ts with
  | nil =>
      have hempty : ';' ∉ emptyScript.toList := by decide
      exact closedPieces_eq_nil hempty
  | cons t ts =>
      rw [toList_script (List.cons_ne_nil t ts)]
      exact closedPieces_flatten (isClosed_of_mem_parts h)

/-- No statement begins with a line feed, so what stands in front of it can be
taken away. -/
theorem map_dropWhile_parts (ts : List Table) (flags : Flags) (dim : Int) :
    (parts (statements ts flags dim)).map (List.dropWhile (· == '\n')) =
      statements ts flags dim := by
  have hstatement : ∀ s ∈ statements ts flags dim,
      s.dropWhile (· == '\n') = s ∧
        (['\n', '\n'] ++ s).dropWhile (· == '\n') = s := by
    intro s hs
    obtain ⟨t, -, rfl⟩ := List.mem_map.mp hs
    rw [toList_tableStatement, toList_statementFront]
    unfold statementHead
    simp
  cases hs : statements ts flags dim with
  | nil => rfl
  | cons s ss =>
      rw [hs] at hstatement
      have htail : ss.map
          (List.dropWhile (· == '\n') ∘ (['\n', '\n'] ++ ·)) = ss := by
        refine (List.map_congr_left fun r hr => ?_).trans (List.map_id ss)
        exact (hstatement r (by simp [hr])).2
      rw [parts, List.map_cons, List.map_map, htail, (hstatement s (by simp)).1]

/-- **Reading a script back** gives its statements. -/
theorem map_dropWhile_closedPieces (h : ∀ t ∈ ts, t.IsPlain) :
    (closedPieces ';' (script ts flags dim).toList).map
      (List.dropWhile (· == '\n')) = statements ts flags dim := by
  rw [closedPieces_script h, map_dropWhile_parts]

theorem toList_script_cons_cons (t u : Table) (ts : List Table)
    (flags : Flags) (dim : Int) :
    (script (t :: u :: ts) flags dim).toList =
      (tableStatement t (flags.marks t.name) dim).toList ++
        '\n' :: ([] ++ '\n' :: (script (u :: ts) flags dim).toList) := by
  have hcons : script (t :: u :: ts) flags dim =
      tableStatement t (flags.marks t.name) dim ++ "\n\n" ++
        script (u :: ts) flags dim :=
    String.intercalate_cons_cons
  rw [hcons]
  simp

/-- The lines of a script that hold a semicolon. -/
theorem eq_of_mem_pieces_script (h : ∀ t ∈ ts, t.IsPlain) {line : List Char}
    (hline : line ∈ pieces (· == '\n') (script ts flags dim).toList)
    (hmem : ';' ∈ line) : line = [')', ';'] := by
  induction ts with
  | nil =>
      have hempty : ';' ∉ emptyScript.toList := by decide
      exact absurd (mem_of_mem_pieces hline hmem) hempty
  | cons t ts ih =>
      have ht : t.IsPlain := h t (by simp)
      cases ts with
      | nil => exact eq_of_mem_pieces_tableStatement ht hline hmem
      | cons u us =>
          rw [toList_script_cons_cons, pieces_append_cons (by rfl),
            pieces_append_cons (by rfl), List.mem_append,
            List.mem_append] at hline
          rcases hline with hline | hline | hline
          · exact eq_of_mem_pieces_tableStatement ht hline hmem
          · obtain rfl : line = [] := List.mem_singleton.mp hline
            cases hmem
          · exact ih (fun v hv => h v (by simp [hv])) hline

end Script

/-- **No statement is smuggled in.**  Whatever a sketch holds, its script has
one semicolon for each table, and each ends a line that holds nothing but a
closing parenthesis in front of it.  Cut behind every semicolon, the script
falls into the statements of the tables, apart from the blank lines in front
of them, and nothing is left over. -/
theorem semicolons_script (mode : ScanMode) (text : String)
    (p : DuplicatePolicy) (flags : Flags) (dim : Int) :
    let ts := resolveDuplicates p (tables mode text)
    let sql := (script ts flags dim).toList
    sql.count ';' = ts.length ∧
      (∀ line ∈ pieces (· == '\n') sql, ';' ∈ line → line = [')', ';']) ∧
      (closedPieces ';' sql).map (List.dropWhile (· == '\n')) =
        ts.map (fun t =>
          (tableStatement t (flags.marks t.name) dim).toList) ∧
      (ts ≠ [] → (closedPieces ';' sql).flatten = sql) := by
  intro ts sql
  have hplain : ∀ t ∈ ts, t.IsPlain := fun t ht =>
    (wellFormed_of_mem_resolved mode text p t ht).isPlain
  have hpieces : (closedPieces ';' sql).map (List.dropWhile (· == '\n')) =
      statements ts flags dim := map_dropWhile_closedPieces hplain
  refine ⟨?_, fun line hline hmem => ?_, hpieces, fun hts => ?_⟩
  · rw [← length_closedPieces, ← List.length_map, hpieces, statements,
      List.length_map]
  · exact eq_of_mem_pieces_script hplain hline hmem
  · rw [closedPieces_script hplain]
    exact (toList_script hts flags dim).symm

/-- A sketch with closing parentheses, commas and a mark that only looks like a
semicolon. -/
def likenesses : String :=
  r"T:{shape: sql_table; a: x)" ++ "\u037e" ++ r", );}"

/-- They do not end the statement of a flagged table early. -/
theorem semicolons_script_of_likenesses :
    let ts := resolveDuplicates .merge (tables .firstClose likenesses)
    let sql := (script ts ⟨[("T", .bool true)]⟩ 3).toList
    ts ≠ [] ∧ sql.count ';' = 1 ∧ (closedPieces ';' sql).flatten = sql := by
  obtain ⟨hcount, -, -, hall⟩ := semicolons_script .firstClose likenesses .merge
    ⟨[("T", .bool true)]⟩ 3
  have hts : resolveDuplicates .merge (tables .firstClose likenesses) =
      [⟨"T", [⟨"a", "x)\u037e, )"⟩]⟩] := by
    decide
  rw [hts] at hcount hall ⊢
  exact ⟨by simp, hcount, hall (by simp)⟩

/-- Schemas have the same script if their tables do so one by one. -/
theorem script_congr {ts us : List Table} {flags flags' : Flags}
    {dim dim' : Int}
    (h : List.Forall₂ (fun t u => t.name = u.name ∧
      columnLines t (flags.marks t.name) dim =
        columnLines u (flags'.marks u.name) dim') ts us) :
    script ts flags dim = script us flags' dim' := by
  have hstatements :
      ts.map (fun t => tableStatement t (flags.marks t.name) dim) =
        us.map (fun u => tableStatement u (flags'.marks u.name) dim') := by
    refine map_eq_of_forall₂ (fun t u htu => ?_) h
    unfold tableStatement
    rw [htu.2, htu.1]
  unfold script
  rw [hstatements]
  cases h with
  | nil => rfl
  | cons _ _ => rfl

/-- **What a script tells.**  If their names and types are texts of one line,
two schemas have the same script exactly if they have equally many tables and,
table by table, the same name and the same lines of columns. -/
theorem script_eq_iff (ts us : List Table) (flags flags' : Flags)
    (dim dim' : Int) (hts : ∀ t ∈ ts, t.IsPlain) (hus : ∀ u ∈ us, u.IsPlain) :
    script ts flags dim = script us flags' dim' ↔
      List.Forall₂ (fun t u => t.name = u.name ∧
        columnLines t (flags.marks t.name) dim =
          columnLines u (flags'.marks u.name) dim') ts us := by
  refine ⟨fun h => ?_, script_congr⟩
  have hstatements : statements ts flags dim = statements us flags' dim' := by
    rw [← map_dropWhile_closedPieces hts, h, map_dropWhile_closedPieces hus]
  refine forall₂_of_map_eq (fun t ht u hu htu => ?_) hstatements
  exact eq_of_tableStatement_eq (hts t ht) (hus u hu) (String.toList_inj.mp htu)

/-- A declared column in the likeness of the one for vectors gives the same
script, a column whose type ends with one more comma does not; a table without
rows is a table all the same. -/
theorem script_eq_iff_of_likenesses :
    (∀ t ∈ [(⟨"T", [⟨"embedding", "f32_blob(3)"⟩]⟩ : Table), ⟨"U", []⟩],
        t.IsPlain) ∧
      (∀ t ∈ [(⟨"T", []⟩ : Table), ⟨"U", []⟩], t.IsPlain) ∧
      script [⟨"T", [⟨"embedding", "f32_blob(3)"⟩]⟩, ⟨"U", []⟩] {} 768 =
        script [⟨"T", []⟩, ⟨"U", []⟩] ⟨[("T", .bool true)]⟩ 3 ∧
      (∀ t ∈ [(⟨"T", [⟨"a", "x,"⟩, ⟨"b", "y"⟩]⟩ : Table)], t.IsPlain) ∧
      (∀ t ∈ [(⟨"T", [⟨"a", "x,,"⟩, ⟨"b", "y"⟩]⟩ : Table)], t.IsPlain) ∧
      script [⟨"T", [⟨"a", "x,"⟩, ⟨"b", "y"⟩]⟩] {} 768 ≠
        script [⟨"T", [⟨"a", "x,,"⟩, ⟨"b", "y"⟩]⟩] {} 768 := by
  refine ⟨by decide, by decide, ?_, by decide, by decide, fun h => ?_⟩
  · refine (script_eq_iff _ _ _ _ _ _ (by decide) (by decide)).mpr ?_
    exact .cons ⟨rfl, by decide⟩ (.cons ⟨rfl, by decide⟩ .nil)
  · have hrows := (script_eq_iff _ _ _ _ _ _ (by decide) (by decide)).mp h
    cases hrows with
    | cons hcolumns _ => exact absurd hcolumns.2 (by decide)

end TableSketch.Ddl
