import Mathlib.Data.List.Basic
import TableSketch.Proofs.Schema.Names
import TableSketch.Session

/-!
# What the policies for duplicates mean

A schema without repeated names is told by its names and the table of each
(`filterMap_named?`).  Which names a policy leaves is known
(`map_name_resolveDuplicates`); this module says which table it leaves for a
name.

One more table is joined to the one of its name, if there is one
(`named?_addTable`).  Joining is associative for every policy, so the tables
of two schemas can be resolved apart and joined afterwards
(`named?_resolveDuplicates_append`), and nothing is left to do where names do
not repeat (`resolveDuplicates_of_nodup`).  Therefore it makes no difference
when duplicates are resolved.

## Main results

* `resolveDuplicates_by_name` — the first table of each name, or the columns of
  all tables of the name.
* `resolveDuplicates_in_stages` — resolving duplicates early, late or several
  times.
-/

namespace TableSketch

/-! ## The table of a name -/

/-- The table of a name; the first one, if there are several. -/
def named? (ts : List Table) (n : String) : Option Table :=
  ts.find? fun t => t.name = n

/-- The columns of all tables of a name, in order. -/
def columnsOf (ts : List Table) (n : String) : List Column :=
  (ts.filter fun t => t.name = n).flatMap Table.columns

section Named

variable {ts : List Table} {t : Table} {n : String}

theorem named?_cons (t : Table) (ts : List Table) (n : String) :
    named? (t :: ts) n = if t.name = n then some t else named? ts n := by
  by_cases h : t.name = n <;> simp [named?, h]

theorem named?_append (ts us : List Table) (n : String) :
    named? (ts ++ us) n = (named? ts n).or (named? us n) :=
  List.find?_append

theorem columnsOf_append (ts us : List Table) (n : String) :
    columnsOf (ts ++ us) n = columnsOf ts n ++ columnsOf us n := by
  rw [columnsOf, List.filter_append, List.flatMap_append]
  rfl

/-- Where names do not repeat, a table is the one of its name. -/
theorem named?_of_mem (hnodup : (ts.map Table.name).Nodup) (ht : t ∈ ts) :
    named? ts t.name = some t := by
  induction ts with
  | nil => cases ht
  | cons s ts ih =>
      rw [List.map_cons, List.nodup_cons] at hnodup
      rw [named?_cons]
      rcases List.mem_cons.mp ht with rfl | ht
      · exact if_pos rfl
      · have hne : s.name ≠ t.name := fun h =>
          hnodup.1 (h ▸ List.mem_map_of_mem ht)
        rw [if_neg hne, ih hnodup.2 ht]

theorem named?_eq_none (h : n ∉ ts.map Table.name) : named? ts n = none := by
  rw [named?, List.find?_eq_none]
  intro t ht hname
  exact h (of_decide_eq_true hname ▸ List.mem_map_of_mem ht)

/-- Where names do not repeat, the columns of a name are those of one table. -/
theorem columnsOf_of_nodup (hnodup : (ts.map Table.name).Nodup) (n : String) :
    columnsOf ts n = (named? ts n).elim [] Table.columns := by
  induction ts with
  | nil => rfl
  | cons t ts ih =>
      rw [List.map_cons, List.nodup_cons] at hnodup
      rw [← List.singleton_append, columnsOf_append, ih hnodup.2,
        List.singleton_append, named?_cons]
      by_cases h : t.name = n
      · rw [if_pos h, named?_eq_none (h ▸ hnodup.1)]
        simp [columnsOf, h]
      · rw [if_neg h]
        simp [columnsOf, h]

/-- Where names do not repeat, a schema is told by its names and the table of
each. -/
theorem filterMap_named? (hnodup : (ts.map Table.name).Nodup) :
    (ts.map Table.name).filterMap (named? ts) = ts := by
  rw [List.filterMap_map]
  calc ts.filterMap (named? ts ∘ Table.name)
      = ts.filterMap some :=
        List.filterMap_congr fun t ht => named?_of_mem hnodup ht
    _ = ts := List.filterMap_some

end Named

/-! ## One more table -/

/-- **One more table** is joined to the one of its name, if there is one. -/
theorem named?_addTable {join : Table → Table → Table}
    (hjoin : ∀ s t, (join s t).name = s.name) (ts : List Table) (t : Table)
    (n : String) :
    named? (addTable join ts t) n =
      Option.merge join (named? ts n) (named? [t] n) := by
  induction ts with
  | nil => exact Option.merge_none_left.symm
  | cons s ts ih =>
      rw [addTable, named?_cons s]
      by_cases hst : s.name = t.name
      · rw [if_pos hst, named?_cons, named?_cons t, hjoin, ← hst]
        by_cases hs : s.name = n
        · rw [if_pos hs, if_pos hs, if_pos hs]
          rfl
        · rw [if_neg hs, if_neg hs, if_neg hs]
          exact Option.merge_none_right.symm
      · rw [if_neg hst, named?_cons, ih]
        by_cases hs : s.name = n
        · rw [if_pos hs, if_pos hs, named?_cons t, if_neg (hs ▸ Ne.symm hst)]
          rfl
        · rw [if_neg hs, if_neg hs]

namespace DuplicatePolicy

instance (p : DuplicatePolicy) : Std.Associative p.join where
  assoc s t u := by
    cases p with
    | keep => rfl
    | first => rfl
    | merge => simp [join, Table.extend]

end DuplicatePolicy

section Policy

variable {p : DuplicatePolicy}

/-- A schema behind another one is added table by table. -/
theorem resolveDuplicates_append (hp : p ≠ .keep) (ts us : List Table) :
    resolveDuplicates p (ts ++ us) =
      us.foldl (addTable p.join) (resolveDuplicates p ts) := by
  cases p with
  | keep => exact absurd rfl hp
  | first => exact List.foldl_append
  | merge => exact List.foldl_append

theorem resolveDuplicates_concat (hp : p ≠ .keep) (ts : List Table)
    (t : Table) :
    resolveDuplicates p (ts ++ [t]) =
      addTable p.join (resolveDuplicates p ts) t :=
  resolveDuplicates_append hp ts [t]

theorem resolveDuplicates_nil (p : DuplicatePolicy) :
    resolveDuplicates p [] = [] := by
  cases p <;> rfl

theorem nodup_map_name_resolveDuplicates (hp : p ≠ .keep) (ts : List Table) :
    ((resolveDuplicates p ts).map Table.name).Nodup := by
  rw [map_name_resolveDuplicates hp]
  exact (firstOccurrences_eraseDups _).nodup

/-- **Two schemas** can be resolved apart: the tables of a name are joined
afterwards. -/
theorem named?_resolveDuplicates_append (hp : p ≠ .keep) (ts us : List Table)
    (n : String) :
    named? (resolveDuplicates p (ts ++ us)) n =
      Option.merge p.join (named? (resolveDuplicates p ts) n)
        (named? (resolveDuplicates p us) n) := by
  have hassoc := (Option.associative_merge p.join).assoc
  induction us using List.reverseRecOn with
  | nil =>
      rw [List.append_nil, resolveDuplicates_nil]
      exact Option.merge_none_right.symm
  | append_singleton us u ih =>
      rw [← List.append_assoc, resolveDuplicates_concat hp,
        resolveDuplicates_concat hp, named?_addTable p.name_join,
        named?_addTable p.name_join, ih, hassoc]

/-- Where names do not repeat there is nothing to resolve. -/
theorem resolveDuplicates_of_nodup (hp : p ≠ .keep) {ts : List Table}
    (hnodup : (ts.map Table.name).Nodup) : resolveDuplicates p ts = ts := by
  induction ts using List.reverseRecOn with
  | nil => exact resolveDuplicates_nil p
  | append_singleton ts t ih =>
      rw [List.map_append, List.map_singleton, List.nodup_append] at hnodup
      obtain ⟨hts, -, hdisjoint⟩ := hnodup
      have hnew : t.name ∉ ts.map Table.name := fun hmem =>
        hdisjoint _ hmem _ (List.mem_singleton_self _) rfl
      rw [resolveDuplicates_concat hp, ih hts, addTable_of_not_mem hnew]

end Policy

/-! ## The first table, and all columns -/

theorem named?_resolveDuplicates_first (ts : List Table) (n : String) :
    named? (resolveDuplicates .first ts) n = named? ts n := by
  induction ts using List.reverseRecOn with
  | nil => rfl
  | append_singleton ts t ih =>
      rw [resolveDuplicates_concat (by decide),
        named?_addTable (DuplicatePolicy.name_join .first), ih, named?_append]
      cases named? ts n <;> cases named? [t] n <;> rfl

/-- The columns of the table of a name are those of all tables of the name. -/
theorem elim_named?_resolveDuplicates_merge (ts : List Table) (n : String) :
    (named? (resolveDuplicates .merge ts) n).elim [] Table.columns =
      columnsOf ts n := by
  induction ts using List.reverseRecOn with
  | nil => rfl
  | append_singleton ts t ih =>
      have ht : columnsOf [t] n = (named? [t] n).elim [] Table.columns := by
        by_cases h : t.name = n <;> simp [columnsOf, named?, h]
      rw [resolveDuplicates_concat (by decide),
        named?_addTable (DuplicatePolicy.name_join .merge), columnsOf_append,
        ← ih, ht]
      cases named? (resolveDuplicates .merge ts) n <;>
        cases named? [t] n <;> simp [DuplicatePolicy.join]

/-- No column of any name is lost, repeated or moved. -/
theorem columnsOf_resolveDuplicates_merge (ts : List Table) (n : String) :
    columnsOf (resolveDuplicates .merge ts) n = columnsOf ts n := by
  rw [columnsOf_of_nodup (nodup_map_name_resolveDuplicates (by decide) ts),
    elim_named?_resolveDuplicates_merge]

theorem firstOccurrences_resolveDuplicates {p : DuplicatePolicy}
    (hp : p ≠ .keep) (ts : List Table) :
    FirstOccurrences ((resolveDuplicates p ts).map Table.name)
      (ts.map Table.name) := by
  rw [map_name_resolveDuplicates hp]
  exact firstOccurrences_eraseDups _

/-- **What the policies mean.**  Both `first` and `merge` leave one table for
each name, in the order in which the names first occur.  The former leaves the
first table of the name; the latter leaves a table with the columns of all
tables of the name, one after the other, so that every name has the same
columns as before. -/
theorem resolveDuplicates_by_name (ts : List Table) :
    (∀ p, p ≠ .keep →
      FirstOccurrences ((resolveDuplicates p ts).map Table.name)
        (ts.map Table.name)) ∧
    (∀ t ∈ resolveDuplicates .first ts, named? ts t.name = some t) ∧
    (∀ t ∈ resolveDuplicates .merge ts, t.columns = columnsOf ts t.name) ∧
    ∀ n, columnsOf (resolveDuplicates .merge ts) n = columnsOf ts n := by
  refine ⟨fun p hp => firstOccurrences_resolveDuplicates hp ts,
    fun t ht => ?_, fun t ht => ?_, columnsOf_resolveDuplicates_merge ts⟩
  · rw [← named?_resolveDuplicates_first]
    exact named?_of_mem (nodup_map_name_resolveDuplicates (by decide) ts) ht
  · rw [← elim_named?_resolveDuplicates_merge,
      named?_of_mem (nodup_map_name_resolveDuplicates (by decide) ts) ht]
    rfl

/-- Two names, each twice: the tables of the first one stand around a table of
the second. -/
theorem resolveDuplicates_by_name_of_interleaved :
    let ts : List Table := [⟨"A", [⟨"a", "x"⟩]⟩, ⟨"B", [⟨"b", "y"⟩]⟩,
      ⟨"A", [⟨"a", "x"⟩, ⟨"c", "z"⟩]⟩, ⟨"B", []⟩]
    DuplicatePolicy.merge ≠ .keep ∧
      FirstOccurrences ((resolveDuplicates .merge ts).map Table.name)
        ["A", "B", "A", "B"] ∧
      ⟨"A", [⟨"a", "x"⟩]⟩ ∈ resolveDuplicates .first ts ∧
      named? ts "A" = some ⟨"A", [⟨"a", "x"⟩]⟩ ∧
      ⟨"A", [⟨"a", "x"⟩, ⟨"a", "x"⟩, ⟨"c", "z"⟩]⟩ ∈
        resolveDuplicates .merge ts ∧
      [⟨"a", "x"⟩, ⟨"a", "x"⟩, ⟨"c", "z"⟩] = columnsOf ts "A" := by
  intro ts
  obtain ⟨hnames, hfirst, hmerge, -⟩ := resolveDuplicates_by_name ts
  exact ⟨by decide, hnames .merge (by decide), by decide,
    hfirst ⟨"A", [⟨"a", "x"⟩]⟩ (by decide), by decide,
    hmerge ⟨"A", [⟨"a", "x"⟩, ⟨"a", "x"⟩, ⟨"c", "z"⟩]⟩ (by decide)⟩

/-! ## Early or late -/

/-- Two schemas, resolved apart and then together, are as if they had been
resolved together at once. -/
theorem resolveDuplicates_append_resolveDuplicates (p : DuplicatePolicy)
    (ts us : List Table) :
    resolveDuplicates p (resolveDuplicates p ts ++ resolveDuplicates p us) =
      resolveDuplicates p (ts ++ us) := by
  by_cases hp : p = .keep
  · subst hp
    rfl
  · have hnodup := nodup_map_name_resolveDuplicates hp
    have hnames : (resolveDuplicates p
          (resolveDuplicates p ts ++ resolveDuplicates p us)).map Table.name =
        (resolveDuplicates p (ts ++ us)).map Table.name := by
      rw [map_name_resolveDuplicates hp, map_name_resolveDuplicates hp,
        List.map_append, map_name_resolveDuplicates hp,
        map_name_resolveDuplicates hp, eraseDups_append_eraseDups,
        List.map_append]
    have hnamed : named? (resolveDuplicates p
          (resolveDuplicates p ts ++ resolveDuplicates p us)) =
        named? (resolveDuplicates p (ts ++ us)) := by
      funext n
      rw [named?_resolveDuplicates_append hp,
        resolveDuplicates_of_nodup hp (hnodup ts),
        resolveDuplicates_of_nodup hp (hnodup us),
        ← named?_resolveDuplicates_append hp]
    rw [← filterMap_named? (hnodup (ts ++ us)), ← hnames, ← hnamed]
    exact (filterMap_named? (hnodup _)).symm

theorem resolveDuplicates_resolveDuplicates (p : DuplicatePolicy)
    (ts : List Table) :
    resolveDuplicates p (resolveDuplicates p ts) = resolveDuplicates p ts := by
  have h := resolveDuplicates_append_resolveDuplicates p ts []
  rwa [resolveDuplicates_nil, List.append_nil, List.append_nil] at h

/-- What is in front may be resolved already. -/
theorem resolveDuplicates_resolveDuplicates_append (p : DuplicatePolicy)
    (ts us : List Table) :
    resolveDuplicates p (resolveDuplicates p ts ++ us) =
      resolveDuplicates p (ts ++ us) := by
  rw [← resolveDuplicates_append_resolveDuplicates,
    resolveDuplicates_resolveDuplicates,
    resolveDuplicates_append_resolveDuplicates]

namespace Session

/-- What can be done to the tables of a session while they are collected. -/
inductive Edit where
  /-- Another sketch is read. -/
  | sketch (mode : ScanMode) (text : String)
  /-- Duplicates are resolved. -/
  | resolve
  deriving DecidableEq, Repr

/-- The tables that come in. -/
def Edit.tables : Edit → List Table
  | .sketch mode text => TableSketch.tables mode text
  | .resolve => []

/-- A session after an edit, duplicates being resolved under a policy. -/
def edit (p : DuplicatePolicy) (s : Session) : Edit → Session
  | .sketch mode text => s.addSketch mode text
  | .resolve => s.resolveDuplicates p

variable (p : DuplicatePolicy)

/-- One edit: if duplicates are resolved in the end, it counts for the tables
that come in. -/
theorem resolveDuplicates_edit (s : Session) (e : Edit) (us : List Table) :
    TableSketch.resolveDuplicates p ((s.edit p e).tables ++ us) =
      TableSketch.resolveDuplicates p (s.tables ++ (e.tables ++ us)) := by
  cases e with
  | sketch mode text => exact congrArg _ (List.append_assoc _ _ _)
  | resolve => exact resolveDuplicates_resolveDuplicates_append p s.tables us

theorem flags_edit (s : Session) (e : Edit) : (s.edit p e).flags = s.flags := by
  cases e <;> rfl

/-- Many edits. -/
theorem resolveDuplicates_foldl_edit (s : Session) (edits : List Edit) :
    (edits.foldl (edit p) s).resolveDuplicates p =
      { s with
        tables := TableSketch.resolveDuplicates p
          (s.tables ++ edits.flatMap Edit.tables) } := by
  induction edits generalizing s with
  | nil => simp [resolveDuplicates]
  | cons e edits ih =>
      rw [List.foldl_cons, ih, resolveDuplicates_edit, flags_edit,
        List.flatMap_cons]

end Session

/-- **Early or late.**  Under every policy it makes no difference whether the
duplicates of two schemas are resolved before they are put together, and
resolving them again changes nothing.  So, however often duplicates are
resolved while sketches are read, a session ends with the tables that it has
if they are resolved once in the end. -/
theorem resolveDuplicates_in_stages (p : DuplicatePolicy) :
    (∀ ts us,
      resolveDuplicates p (resolveDuplicates p ts ++ resolveDuplicates p us) =
        resolveDuplicates p (ts ++ us)) ∧
    (∀ ts, resolveDuplicates p (resolveDuplicates p ts) =
      resolveDuplicates p ts) ∧
    ∀ (s : Session) (edits : List Session.Edit),
      (edits.foldl (Session.edit p) s).resolveDuplicates p =
        { s with
          tables := resolveDuplicates p
            (s.tables ++ edits.flatMap Session.Edit.tables) } :=
  ⟨resolveDuplicates_append_resolveDuplicates p,
    resolveDuplicates_resolveDuplicates p,
    Session.resolveDuplicates_foldl_edit p⟩

end TableSketch
