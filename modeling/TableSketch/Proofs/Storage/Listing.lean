import TableSketch.Proofs.Storage.Invariant
import TableSketch.Proofs.Storage.Search

/-!
# What a search lists

In a tree in which each location has one node, a search below a directory lists
every accepted file exactly once, in the order of paths
(`Discovery.mem_filesBelow_iff`, `Discovery.nodup_filesBelow`).  The order of
paths is total, so that the list depends on which files are there, and on nothing
else: not on the order in which a directory names its entries, nor on what is in the
files (`Discovery.filesBelow_congr`).

## Main results

* `Path.before_trans`, `Path.before_total`, `Path.before_antisymm` — the order.
* `Discovery.mem_filesBelow_iff` — which files are listed.
* `Discovery.filesBelow_congr` — what a list depends on.
-/

namespace TableSketch

/-! ## The order of paths -/

namespace Path

theorem before_trans (a b c : List String) (hab : before a b = true)
    (hbc : before b c = true) : before a c = true := by
  induction a generalizing b c with
  | nil => rfl
  | cons x xs ih =>
      cases b with
      | nil => cases hab
      | cons y ys =>
          cases c with
          | nil => cases hbc
          | cons z zs =>
              unfold before at hab hbc ⊢
              by_cases hxy : x = y
              · subst hxy
                rw [if_pos rfl] at hab
                by_cases hxz : x = z
                · subst hxz
                  rw [if_pos rfl] at hbc ⊢
                  exact ih ys zs hab hbc
                · rw [if_neg hxz] at hbc ⊢
                  exact hbc
              · rw [if_neg hxy, decide_eq_true_eq] at hab
                by_cases hyz : y = z
                · subst hyz
                  rw [if_neg hxy, decide_eq_true_eq]
                  exact hab
                · rw [if_neg hyz, decide_eq_true_eq] at hbc
                  have hlt : x < z := String.lt_trans hab hbc
                  have hne : x ≠ z := by
                    rintro rfl
                    exact String.lt_irrefl x hlt
                  rw [if_neg hne, decide_eq_true_eq]
                  exact hlt

theorem before_total (a b : List String) :
    (before a b || before b a) = true := by
  induction a generalizing b with
  | nil => rfl
  | cons x xs ih =>
      cases b with
      | nil => rfl
      | cons y ys =>
          unfold before
          by_cases hxy : x = y
          · subst hxy
            rw [if_pos rfl, if_pos rfl]
            exact ih ys
          · rw [if_neg hxy, if_neg (Ne.symm hxy), Bool.or_eq_true,
              decide_eq_true_eq, decide_eq_true_eq]
            by_contra hneither
            rw [not_or, String.not_lt, String.not_lt] at hneither
            exact hxy (String.le_antisymm hneither.2 hneither.1)

theorem before_antisymm {a b : List String} (hab : before a b = true)
    (hba : before b a = true) : a = b := by
  induction a generalizing b with
  | nil =>
      cases b with
      | nil => rfl
      | cons y ys => cases hba
  | cons x xs ih =>
      cases b with
      | nil => cases hab
      | cons y ys =>
          unfold before at hab hba
          by_cases hxy : x = y
          · subst hxy
            rw [if_pos rfl] at hab hba
            rw [ih hab hba]
          · rw [if_neg hxy, decide_eq_true_eq] at hab
            rw [if_neg (Ne.symm hxy), decide_eq_true_eq] at hba
            exact absurd hba (String.lt_asymm hab)

end Path

/-! ## The files of a tree -/

namespace FileTree

variable {t : FileTree} {l : Location} {f : Location × List UInt8}

theorem mem_files_iff (h : t.WellFormed) :
    f ∈ t.files ↔ t.node? f.1 = some (.file f.2) := by
  rw [files_eq, List.mem_filterMap]
  constructor
  · rintro ⟨⟨l, n⟩, he, hf⟩
    cases n with
    | dir => cases hf
    | file content =>
        cases hf
        exact h.node?_of_mem he
  · intro hnode
    have hl : f.1 ≠ [] := by
      intro hnil
      rw [hnil] at hnode
      cases hnode
    exact ⟨(f.1, .file f.2), mem_of_node? hl hnode, rfl⟩

/-- No two files of a tree are at the same place. -/
theorem pairwise_files (h : t.WellFormed) :
    t.files.Pairwise fun f g => f.1 ≠ g.1 := by
  rw [files_eq, List.pairwise_filterMap]
  have hdistinct := List.pairwise_map.mp h.distinct
  refine hdistinct.imp ?_
  intro e e' hne f hf g hg
  rw [fst_of_fileAt? hf, fst_of_fileAt? hg]
  exact hne

end FileTree

/-! ## The list -/

namespace Discovery

open FileTree (below?)

variable {t t' : FileTree} {d : Discovery} {dir r : Location}

/-- **A search lists the accepted files** below the directory. -/
theorem mem_filesBelow_iff (h : t.WellFormed) :
    r ∈ d.filesBelow t dir ↔
      d.accepts r = true ∧ ∃ content, t.node? (dir ++ r) = some (.file content) := by
  rw [filesBelow, List.mem_mergeSort, List.mem_filter, and_comm,
    FileTree.filesBelow, List.mem_filterMap]
  refine and_congr_right fun _ => ?_
  constructor
  · rintro ⟨f, hf, hbelow⟩
    rw [FileTree.below?_eq_some_iff] at hbelow
    rw [FileTree.mem_files_iff h, hbelow] at hf
    exact ⟨f.2, hf⟩
  · rintro ⟨content, hnode⟩
    exact ⟨(dir ++ r, content), (FileTree.mem_files_iff h).mpr hnode,
      FileTree.below?_eq_some_iff.mpr rfl⟩

/-- No file is listed twice. -/
theorem nodup_filesBelow (h : t.WellFormed) : (d.filesBelow t dir).Nodup := by
  have hbelow : (t.filesBelow dir).Nodup := by
    unfold FileTree.filesBelow
    rw [List.Nodup, List.pairwise_filterMap]
    refine (FileTree.pairwise_files h).imp ?_
    intro f g hne r hr r' hr' heq
    rw [FileTree.below?_eq_some_iff] at hr hr'
    exact hne (by rw [hr, hr', heq])
  rw [filesBelow, (List.mergeSort_perm _ _).nodup_iff]
  exact hbelow.filter _

theorem pairwise_filesBelow (d : Discovery) (t : FileTree) (dir : Location) :
    (d.filesBelow t dir).Pairwise fun a b => Path.before a b = true :=
  List.pairwise_mergeSort Path.before_trans Path.before_total _

/-- **A search depends on which accepted files are there**, and on nothing else. -/
theorem filesBelow_congr (h : t.WellFormed) (h' : t'.WellFormed)
    (hsame : ∀ r, d.accepts r = true →
      ((∃ content, t'.node? (dir ++ r) = some (.file content)) ↔
        ∃ content, t.node? (dir ++ r) = some (.file content))) :
    d.filesBelow t' dir = d.filesBelow t dir := by
  have hperm : (d.filesBelow t' dir).Perm (d.filesBelow t dir) := by
    rw [List.perm_ext_iff_of_nodup (nodup_filesBelow h') (nodup_filesBelow h)]
    intro r
    rw [mem_filesBelow_iff h', mem_filesBelow_iff h]
    exact and_congr_right (hsame r)
  refine hperm.eq_of_pairwise ?_ (pairwise_filesBelow d t' dir)
    (pairwise_filesBelow d t dir)
  intro a b _ _ hab hba
  exact Path.before_antisymm hab hba

/-- A search finds the same sketches when other files have changed, or have gone. -/
theorem find_of_changed {L : Location → Prop} {s s' : Storage} {p : Path}
    (h : s.Changed L s') (hwf : s.WellFormed) (hwf' : s'.WellFormed)
    (hdir : s.find p = .ok (some .dir))
    (hL : ∀ l, L l → (⟨.relative, l⟩ : Path).isSketch = false) :
    ({} : Discovery).find s' p = ({} : Discovery).find s p := by
  have hsame : ({} : Discovery).filesBelow s'.tree (s.place p) =
      ({} : Discovery).filesBelow s.tree (s.place p) := by
    apply filesBelow_congr hwf.tree hwf'.tree
    intro r haccepts
    have hkept : ¬ L (s.place p ++ r) := by
      intro hchanged
      have hsketch := isSketch_of_accepts_below (s.place p) .relative haccepts
      rw [hL _ hchanged] at hsketch
      cases hsketch
    rw [← FileTree.isSome_content?_iff, ← FileTree.isSome_content?_iff,
      h.others _ hkept]
  rw [find_of_dir {} hdir, find_of_dir {} (h.find_dir hdir), h.place_eq, hsame]

end Discovery

end TableSketch
