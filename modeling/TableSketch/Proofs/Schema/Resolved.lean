import TableSketch.Proofs.Sketch.Declared
import TableSketch.Schema.Duplicates

/-!
# Tables after duplicates are resolved

Whatever a policy does about tables of one name, it makes no column of its
own: it keeps a table, drops it, or puts its columns behind those of an
earlier one.  A property of tables that survives the last of these therefore
survives every policy (`forall_mem_resolveDuplicates`).

## Main results

* `wellFormed_of_mem_resolved` — the tables of a sketch are well formed under
  every policy.
-/

namespace TableSketch

section Policy

variable {P : Table → Prop}

/-- One more table. -/
theorem forall_mem_addTable {join : Table → Table → Table}
    (hjoin : ∀ s t, P s → P t → P (join s t)) {ts : List Table} {t : Table}
    (hts : ∀ s ∈ ts, P s) (ht : P t) : ∀ s ∈ addTable join ts t, P s := by
  induction ts with
  | nil => simpa [addTable] using ht
  | cons u ts ih =>
      have hu : P u := hts u (by simp)
      have hrest : ∀ s ∈ ts, P s := fun s hs => hts s (by simp [hs])
      rw [addTable]
      split
      · exact List.forall_mem_cons.mpr ⟨hjoin u t hu ht, hrest⟩
      · exact List.forall_mem_cons.mpr ⟨hu, ih hrest⟩

/-- All tables, one after the other. -/
theorem forall_mem_foldl_addTable {join : Table → Table → Table}
    (hjoin : ∀ s t, P s → P t → P (join s t)) {ts acc : List Table}
    (hts : ∀ t ∈ ts, P t) (hacc : ∀ t ∈ acc, P t) :
    ∀ t ∈ ts.foldl (addTable join) acc, P t := by
  induction ts generalizing acc with
  | nil => exact hacc
  | cons t ts ih =>
      exact ih (fun s hs => hts s (by simp [hs]))
        (forall_mem_addTable hjoin hacc (hts t (by simp)))

/-- What holds of all tables, and of a table with the columns of another one
behind its own, holds of the tables under every policy. -/
theorem forall_mem_resolveDuplicates (p : DuplicatePolicy)
    (hextend : ∀ s t, P s → P t → P (s.extend t.columns)) {ts : List Table}
    (hts : ∀ t ∈ ts, P t) : ∀ t ∈ resolveDuplicates p ts, P t := by
  have hnone : ∀ t ∈ ([] : List Table), P t := fun t ht => nomatch ht
  cases p with
  | keep => exact hts
  | first => exact forall_mem_foldl_addTable (fun s _ hs _ => hs) hts hnone
  | merge => exact forall_mem_foldl_addTable hextend hts hnone

end Policy

namespace Table

variable {t u : Table}

theorem WellFormed.extend (ht : t.WellFormed) (hu : u.WellFormed) :
    (t.extend u.columns).WellFormed := by
  refine ⟨ht.name_ne_empty, ht.name_word, fun c hc => ?_⟩
  rcases List.mem_append.mp hc with hc | hc
  · exact ht.columns c hc
  · exact hu.columns c hc

/-- The tables of a sketch are well formed. -/
theorem wellFormed_of_mem {mode : ScanMode} {text : String}
    (h : t ∈ tables mode text) : t.WellFormed := by
  rw [tables_eq_filterMap_blocks] at h
  obtain ⟨b, hb, htable⟩ := List.mem_filterMap.mp h
  obtain ⟨⟨e, rfl⟩, -⟩ := enclosed_of_mem_blocks hb
  exact Block.wellFormed_of_table? e.name_ne_nil e.name_word e.holds.2 htable

end Table

/-- The tables of a sketch are well formed under every policy. -/
theorem wellFormed_of_mem_resolved (mode : ScanMode) (text : String)
    (p : DuplicatePolicy) :
    ∀ t ∈ resolveDuplicates p (tables mode text), t.WellFormed :=
  forall_mem_resolveDuplicates p (fun _ _ => Table.WellFormed.extend)
    fun _ => Table.wellFormed_of_mem

/-- No policy brings in a character that is not in the text. -/
theorem mem_of_mem_resolved {mode : ScanMode} {text : String} {p : DuplicatePolicy}
    {t : Table} (ht : t ∈ resolveDuplicates p (tables mode text)) {c : Column}
    (hc : c ∈ t.columns) {x : Char} (hx : x ∈ c.name.toList ++ c.type.toList) :
    x ∈ text.toList := by
  refine forall_mem_resolveDuplicates (P := fun t => ∀ c ∈ t.columns,
    ∀ x ∈ c.name.toList ++ c.type.toList, x ∈ text.toList) p ?_ ?_ t ht c hc x hx
  · intro s t hs ht c hc
    rcases List.mem_append.mp hc with hc | hc
    · exact hs c hc
    · exact ht c hc
  · exact fun t ht c hc x hx => mem_of_mem_tables ht hc hx

end TableSketch
