import Mathlib.Data.List.Nodup
import Mathlib.Order.Defs.Unbundled
import TableSketch.Proofs.Schema.Policies
import TableSketch.Proofs.Sketch.Growth

/-!
# Schemas that grow

The tables of a text stay when something is appended to it, but what comes in
may bear a name that is there already, and then duplicates are resolved in
another way than before.  Still every table keeps its place.  One more table
leaves the others as they are, except the one of its name, which the policy
joins it to (`grownBy_addTable`).  So however much comes in, all that happens to
a table is what joining may do to it (`grownBy_resolveDuplicates_append`).

`GrownBy R` is that relation of two schemas, with `R` for what joining does to a
table: nothing under `first`, and more columns at the end under `merge`
(`Table.Lengthened`).

## Main results

* `resolved_tables_grow` — under both policies what is shown of a text stays
  when more is appended.
-/

namespace TableSketch

/-- `GrownBy R ts us`: in front of `us` stand the tables of `ts`, each in its
place and changed as `R` says. -/
inductive GrownBy (R : Table → Table → Prop) : List Table → List Table → Prop
  | nil (us : List Table) : GrownBy R [] us
  | cons {t u : Table} {ts us : List Table} :
      R t u → GrownBy R ts us → GrownBy R (t :: ts) (u :: us)

namespace GrownBy

variable {R : Table → Table → Prop} {ts us vs : List Table}

theorem refl [Std.Refl R] (ts : List Table) : GrownBy R ts ts := by
  induction ts with
  | nil => exact .nil []
  | cons t ts ih => exact .cons (Std.Refl.refl t) ih

theorem trans [IsTrans Table R] (h : GrownBy R ts us) (h' : GrownBy R us vs) :
    GrownBy R ts vs := by
  induction h generalizing vs with
  | nil => exact .nil vs
  | cons hR _ ih =>
      cases h' with
      | cons hR' h' => exact .cons (IsTrans.trans _ _ _ hR hR') (ih h')

/-- Tables that are not changed at all. -/
theorem isPrefix (h : GrownBy Eq ts us) : ts <+: us := by
  induction h with
  | nil us => exact List.nil_prefix
  | cons hR _ ih =>
      subst hR
      exact List.cons_prefix_cons.mpr ⟨rfl, ih⟩

/-- Tables that keep their names. -/
theorem map_name_isPrefix (hname : ∀ t u, R t u → u.name = t.name)
    (h : GrownBy R ts us) : ts.map Table.name <+: us.map Table.name := by
  induction h with
  | nil us => exact List.nil_prefix
  | cons hR _ ih => exact List.cons_prefix_cons.mpr ⟨(hname _ _ hR).symm, ih⟩

theorem exists_mem (h : GrownBy R ts us) {t : Table} (ht : t ∈ ts) :
    ∃ u ∈ us, R t u := by
  induction h with
  | nil us => cases ht
  | cons hR _ ih =>
      rcases List.mem_cons.mp ht with rfl | ht
      · exact ⟨_, List.mem_cons_self, hR⟩
      · obtain ⟨u, hu, hR'⟩ := ih ht
        exact ⟨u, List.mem_cons_of_mem _ hu, hR'⟩

end GrownBy

/-! ## Tables that come in -/

section Join

variable {R : Table → Table → Prop} [Std.Refl R] {join : Table → Table → Table}

/-- **One more table** changes another one only by joining. -/
theorem grownBy_addTable (hjoin : ∀ s t, R s (join s t)) (ts : List Table)
    (t : Table) : GrownBy R ts (addTable join ts t) := by
  induction ts with
  | nil => exact .nil _
  | cons s ts ih =>
      rw [addTable]
      split
      · exact .cons (hjoin s t) (.refl ts)
      · exact .cons (Std.Refl.refl s) ih

variable [IsTrans Table R]

/-- Any number of tables. -/
theorem grownBy_foldl_addTable (hjoin : ∀ s t, R s (join s t))
    (us ts : List Table) : GrownBy R ts (us.foldl (addTable join) ts) := by
  induction us generalizing ts with
  | nil => exact .refl ts
  | cons u us ih => exact (grownBy_addTable hjoin ts u).trans (ih _)

/-- **More tables behind a schema**: all that happens to the tables shown so
far is that others are joined to them. -/
theorem grownBy_resolveDuplicates_append {p : DuplicatePolicy}
    (hp : p ≠ .keep) (hjoin : ∀ s t, R s (p.join s t)) (ts us : List Table) :
    GrownBy R (resolveDuplicates p ts) (resolveDuplicates p (ts ++ us)) := by
  rw [resolveDuplicates_append hp]
  exact grownBy_foldl_addTable hjoin us _

end Join

/-- The table has more columns, behind its own. -/
structure Table.Lengthened (t u : Table) : Prop where
  name_eq : u.name = t.name
  columns_isPrefix : t.columns <+: u.columns

namespace Table.Lengthened

instance : Std.Refl Table.Lengthened where
  refl _ := ⟨rfl, List.prefix_refl _⟩

instance : IsTrans Table Table.Lengthened where
  trans _ _ _ h h' :=
    ⟨h'.name_eq.trans h.name_eq, h.columns_isPrefix.trans h'.columns_isPrefix⟩

theorem extend (t : Table) (more : List Column) :
    t.Lengthened (t.extend more) :=
  ⟨rfl, List.prefix_append _ _⟩

end Table.Lengthened

/-- Under `first` the tables shown so far stay as they are. -/
theorem resolveDuplicates_first_isPrefix (ts us : List Table) :
    resolveDuplicates .first ts <+: resolveDuplicates .first (ts ++ us) := by
  have hgrown : GrownBy Eq (resolveDuplicates .first ts)
      (resolveDuplicates .first (ts ++ us)) :=
    grownBy_resolveDuplicates_append (by decide) (fun _ _ => rfl) ts us
  exact hgrown.isPrefix

/-- Under `merge` they get more columns. -/
theorem grownBy_resolveDuplicates_merge (ts us : List Table) :
    GrownBy Table.Lengthened (resolveDuplicates .merge ts)
      (resolveDuplicates .merge (ts ++ us)) :=
  grownBy_resolveDuplicates_append (p := .merge) (by decide)
    (fun s t => .extend s t.columns) ts us

/-! ## Texts that grow -/

/-- **What is shown of a text stays when more is appended to it.**  Under
`first` the tables of the text are the first ones.  Under `merge` their names
are the first ones, and the one table that bears the name of a table then
begins with its columns. -/
theorem resolved_tables_grow (mode : ScanMode) (text more : String) :
    resolveDuplicates .first (tables mode text) <+:
        resolveDuplicates .first (tables mode (text ++ more)) ∧
      (resolveDuplicates .merge (tables mode text)).map Table.name <+:
        (resolveDuplicates .merge (tables mode (text ++ more))).map
          Table.name ∧
      ∀ t ∈ resolveDuplicates .merge (tables mode text),
        ∃ u ∈ resolveDuplicates .merge (tables mode (text ++ more)),
          (u.name = t.name ∧ t.columns <+: u.columns) ∧
          ∀ v ∈ resolveDuplicates .merge (tables mode (text ++ more)),
            v.name = t.name → v = u := by
  rw [tables_append]
  have hgrown := grownBy_resolveDuplicates_merge (tables mode text)
    (tablesFrom mode (ScanState.after mode .outside text.toList) more.toList)
  refine ⟨resolveDuplicates_first_isPrefix _ _,
    hgrown.map_name_isPrefix fun _ _ h => h.name_eq, fun t ht => ?_⟩
  obtain ⟨u, hu, hname, hcolumns⟩ := hgrown.exists_mem ht
  refine ⟨u, hu, ⟨hname, hcolumns⟩, fun v hv hv' => ?_⟩
  have hnodup := nodup_map_name_resolveDuplicates (p := .merge) (by decide)
  exact List.inj_on_of_nodup_map (hnodup _) hv hu (hv'.trans hname.symm)

/-- A block of a known name is appended, and the rest of a heading in front of
it. -/
theorem resolved_tables_grow_of_known_name :
    ⟨"T", [⟨"a", "b"⟩]⟩ ∈ resolveDuplicates .merge
        (tables .balanced "T:{shape: sql_table; a: b} U") ∧
      ∃ u ∈ resolveDuplicates .merge (tables .balanced
          ("T:{shape: sql_table; a: b} U" ++
            ":{shape: sql_table} T:{shape: sql_table; c: d}")),
        u.name = "T" ∧ [⟨"a", "b"⟩] <+: u.columns := by
  have hmem : (⟨"T", [⟨"a", "b"⟩]⟩ : Table) ∈ resolveDuplicates .merge
      (tables .balanced "T:{shape: sql_table; a: b} U") := by
    decide
  obtain ⟨u, hu, hgrown, -⟩ := (resolved_tables_grow .balanced
    "T:{shape: sql_table; a: b} U"
    ":{shape: sql_table} T:{shape: sql_table; c: d}").2.2 _ hmem
  exact ⟨hmem, u, hu, hgrown⟩

example : resolveDuplicates .merge (tables .balanced
    ("T:{shape: sql_table; a: b} U" ++
      ":{shape: sql_table} T:{shape: sql_table; c: d}")) =
    [⟨"T", [⟨"a", "b"⟩, ⟨"c", "d"⟩]⟩, ⟨"U", []⟩] := by
  decide

end TableSketch
