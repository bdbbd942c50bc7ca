import Mathlib.Data.List.Induction
import TableSketch.Schema.Duplicates

/-!
# The names of a schema

Under the policies that leave one table for each name, the names that are left
are those of the schema, each where it first occurred
(`map_name_resolveDuplicates`).  It makes no difference what is done about the
later tables of a name, as long as the earlier one keeps its name.

The lemmas about lists say how names are gone through from the front: one more
name at the end is either known or new.

## Main results

* `map_name_resolveDuplicates` — the names that a policy leaves.
-/

namespace TableSketch

/-! ## Lists without repetitions -/

section Repetitions

variable {α : Type} [BEq α] [LawfulBEq α] {as : List α} {a : α}

/-- A known element changes nothing. -/
theorem eraseDups_concat_of_mem (h : a ∈ as) :
    (as ++ [a]).eraseDups = as.eraseDups := by
  simp [List.eraseDups_append, List.removeAll, h]

/-- A new element goes to the end. -/
theorem eraseDups_concat_of_not_mem (h : a ∉ as) :
    (as ++ [a]).eraseDups = as.eraseDups ++ [a] := by
  simp [List.eraseDups_append, List.removeAll, h, List.eraseDups_cons]

theorem eraseDups_eraseDups (as : List α) :
    as.eraseDups.eraseDups = as.eraseDups := by
  induction as using List.reverseRecOn with
  | nil => rfl
  | append_singleton as a ih =>
      by_cases h : a ∈ as
      · rw [eraseDups_concat_of_mem h, ih]
      · have hnew : a ∉ as.eraseDups := by rwa [List.mem_eraseDups]
        rw [eraseDups_concat_of_not_mem h, eraseDups_concat_of_not_mem hnew, ih]

/-- Lists that are alike up to repetitions stay so with one more element. -/
theorem eraseDups_concat_congr {bs : List α}
    (h : as.eraseDups = bs.eraseDups) (a : α) :
    (as ++ [a]).eraseDups = (bs ++ [a]).eraseDups := by
  have hmem : a ∈ as ↔ a ∈ bs := by
    rw [← List.mem_eraseDups, h, List.mem_eraseDups]
  by_cases hb : a ∈ bs
  · rw [eraseDups_concat_of_mem (hmem.mpr hb), eraseDups_concat_of_mem hb, h]
  · rw [eraseDups_concat_of_not_mem (mt hmem.mp hb),
      eraseDups_concat_of_not_mem hb, h]

/-- The elements of two lists, each once: it makes no difference whether the
repetitions within each list are gone already. -/
theorem eraseDups_append_eraseDups (as bs : List α) :
    (as.eraseDups ++ bs.eraseDups).eraseDups = (as ++ bs).eraseDups := by
  induction bs using List.reverseRecOn with
  | nil =>
      rw [List.eraseDups_nil, List.append_nil, List.append_nil,
        eraseDups_eraseDups]
  | append_singleton bs b ih =>
      rw [← List.append_assoc]
      by_cases h : b ∈ bs
      · rw [eraseDups_concat_of_mem h, ih,
          eraseDups_concat_of_mem (List.mem_append_right as h)]
      · rw [eraseDups_concat_of_not_mem h, ← List.append_assoc]
        exact eraseDups_concat_congr ih b

end Repetitions

/-- `firsts` holds the elements of `as`, each once, in the order in which they
first occur. -/
structure FirstOccurrences {α : Type} [BEq α] (firsts as : List α) : Prop where
  nodup : firsts.Nodup
  mem_iff : ∀ a, a ∈ firsts ↔ a ∈ as
  ordered : firsts.Pairwise fun a b => as.idxOf a < as.idxOf b

theorem pairwise_idxOf_eraseDups {α : Type} [BEq α] [LawfulBEq α]
    (as : List α) :
    as.eraseDups.Pairwise fun a b => as.idxOf a < as.idxOf b := by
  induction as using List.reverseRecOn with
  | nil => exact List.Pairwise.nil
  | append_singleton as c ih =>
      have hold : ∀ a ∈ as.eraseDups, (as ++ [c]).idxOf a = as.idxOf a := by
        intro a ha
        rw [List.idxOf_append, if_pos (List.mem_eraseDups.mp ha)]
      have hsame : as.eraseDups.Pairwise fun a b =>
          (as ++ [c]).idxOf a < (as ++ [c]).idxOf b :=
        ih.imp_of_mem fun ha hb h => by rwa [hold _ ha, hold _ hb]
      by_cases h : c ∈ as
      · rwa [eraseDups_concat_of_mem h]
      · rw [eraseDups_concat_of_not_mem h, List.pairwise_append]
        refine ⟨hsame, List.pairwise_singleton _ _, fun a ha b hb => ?_⟩
        rw [List.mem_singleton.mp hb, hold a ha, List.idxOf_append, if_neg h]
        exact Nat.lt_add_left _
          (List.idxOf_lt_length_of_mem (List.mem_eraseDups.mp ha))

theorem firstOccurrences_eraseDups {α : Type} [BEq α] [LawfulBEq α]
    (as : List α) : FirstOccurrences as.eraseDups as where
  nodup := (pairwise_idxOf_eraseDups as).imp fun h heq => by simp [heq] at h
  mem_iff _ := List.mem_eraseDups
  ordered := pairwise_idxOf_eraseDups as

/-! ## Names under a policy -/

section Policy

variable {join : Table → Table → Table} {ts : List Table} {t : Table}

/-- A table of a known name leaves the names as they are. -/
theorem map_name_addTable_of_mem (hjoin : ∀ s u, (join s u).name = s.name)
    (h : t.name ∈ ts.map Table.name) :
    (addTable join ts t).map Table.name = ts.map Table.name := by
  induction ts with
  | nil => cases h
  | cons s ts ih =>
      rw [addTable]
      split
      · simp [hjoin]
      · next hne =>
          have hrest : t.name ∈ ts.map Table.name := by
            rcases List.mem_cons.mp h with h | h
            · exact absurd h.symm hne
            · exact h
          rw [List.map_cons, List.map_cons, ih hrest]

/-- A table of a new name goes to the end. -/
theorem addTable_of_not_mem (h : t.name ∉ ts.map Table.name) :
    addTable join ts t = ts ++ [t] := by
  induction ts with
  | nil => rfl
  | cons s ts ih =>
      rw [List.map_cons, List.mem_cons, not_or] at h
      rw [addTable, if_neg (Ne.symm h.1), ih h.2, List.cons_append]

theorem map_name_addTable_of_not_mem (h : t.name ∉ ts.map Table.name) :
    (addTable join ts t).map Table.name = ts.map Table.name ++ [t.name] := by
  rw [addTable_of_not_mem h, List.map_append, List.map_singleton]

theorem map_name_foldl_addTable (hjoin : ∀ s u, (join s u).name = s.name)
    (ts : List Table) :
    (ts.foldl (addTable join) []).map Table.name =
      (ts.map Table.name).eraseDups := by
  induction ts using List.reverseRecOn with
  | nil => rfl
  | append_singleton ts t ih =>
      have hmem : t.name ∈ (ts.foldl (addTable join) []).map Table.name ↔
          t.name ∈ ts.map Table.name := by
        rw [ih, List.mem_eraseDups]
      rw [List.foldl_append, List.foldl_cons, List.foldl_nil, List.map_append,
        List.map_singleton]
      by_cases h : t.name ∈ ts.map Table.name
      · rw [map_name_addTable_of_mem hjoin (hmem.mpr h), ih,
          eraseDups_concat_of_mem h]
      · rw [map_name_addTable_of_not_mem (mt hmem.mp h), ih,
          eraseDups_concat_of_not_mem h]

end Policy

theorem DuplicatePolicy.name_join (p : DuplicatePolicy) (s t : Table) :
    (p.join s t).name = s.name := by
  cases p with
  | keep => rfl
  | first => rfl
  | merge => rfl

/-- **The names that a policy leaves**: every one once, where it first
occurred, unless all tables are kept. -/
theorem map_name_resolveDuplicates {p : DuplicatePolicy} (hp : p ≠ .keep)
    (ts : List Table) :
    (resolveDuplicates p ts).map Table.name =
      (ts.map Table.name).eraseDups := by
  cases p with
  | keep => exact absurd rfl hp
  | first => exact map_name_foldl_addTable (DuplicatePolicy.name_join .first) ts
  | merge => exact map_name_foldl_addTable (DuplicatePolicy.name_join .merge) ts

end TableSketch
