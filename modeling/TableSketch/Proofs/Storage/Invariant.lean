import Mathlib.Data.List.Basic
import Mathlib.Data.List.Induction
import TableSketch.Proofs.Storage.Writing

/-!
# Storages that are well formed

Every storage that is made from the empty one by making directories, writing files
and removing files has a tree in which each location has one node and stands in a
directory, the name `..` stands for nothing in it, and its working directory is
there.  `Storage.WellFormed` says so, and here each change is shown to keep it.

A change is made at the end of a path, and it is not seen from the path that its
last part leads forward.  It does if nothing is there yet, or a file: a path that
goes back ends in a directory (`Storage.WellFormed.exists_concat_of_locate`).

## Main results

* `FileTree.WellFormed.put`, `FileTree.WellFormed.remove` — one change of a tree.
* `Storage.WellFormed.exists_concat_of_locate` — what a path leads to stands in a
  directory.
* `Storage.WellFormed.save`, `Storage.WellFormed.remove` — changes of a storage.
-/

namespace TableSketch

/-- A pair is found by its key, if no other pair has the same key. -/
theorem lookup_of_mem {α β : Type} [BEq α] [LawfulBEq α] {es : List (α × β)}
    {e : α × β} (hdistinct : (es.map Prod.fst).Nodup) (hmem : e ∈ es) :
    es.lookup e.1 = some e.2 := by
  induction es with
  | nil => cases hmem
  | cons e' es ih =>
      rw [List.map_cons, List.nodup_cons] at hdistinct
      rw [List.lookup_cons]
      rcases List.mem_cons.mp hmem with heq | hrest
      · subst heq
        simp
      · have hne : e.1 ≠ e'.1 := by
          intro heq
          apply hdistinct.1
          rw [← heq]
          exact List.mem_map_of_mem hrest
        have hkey : (e.1 == e'.1) = false := by simpa using hne
        rw [hkey]
        exact ih hdistinct.2 hrest

namespace FileTree

variable {t : FileTree} {l l' : Location} {n : Node}

/-! ## Removing a node -/

theorem node?_remove_self (hl : l ≠ []) (t : FileTree) :
    (t.remove l).node? l = none := by
  rw [node?_of_ne_nil hl, List.lookup_eq_none_iff]
  intro e he
  have hkept := (List.mem_filter.mp he).2
  have hne : e.1 ≠ l := by simpa using hkept
  simpa using Ne.symm hne

theorem node?_remove_of_ne (h : l' ≠ l) (t : FileTree) :
    (t.remove l).node? l' = t.node? l' := by
  by_cases hnil : l' = []
  · subst hnil
    rfl
  rw [node?_of_ne_nil hnil, node?_of_ne_nil hnil]
  show (t.entries.filter fun e => e.1 != l).lookup l' = t.entries.lookup l'
  induction t.entries with
  | nil => rfl
  | cons e es ih =>
      by_cases he : e.1 = l
      · have hkey : (l' == e.1) = false := by simpa [he] using h
        rw [List.filter_cons_of_neg (by simpa using he), List.lookup_cons, hkey]
        exact ih
      · rw [List.filter_cons_of_pos (by simpa using he), List.lookup_cons,
          List.lookup_cons, ih]

/-! ## Well-formed trees -/

instance decidableWellFormed (t : FileTree) : Decidable t.WellFormed :=
  decidable_of_iff ((t.entries.map Prod.fst).Nodup ∧
    ∀ e ∈ t.entries, e.1 ≠ [] ∧ t.node? e.1.dropLast = some .dir)
    ⟨fun h => ⟨h.1, h.2⟩, fun h => ⟨h.distinct, h.inDirs⟩⟩

/-- What is found at a location is one of the entries. -/
theorem mem_of_node? (hl : l ≠ []) (h : t.node? l = some n) :
    (l, n) ∈ t.entries := by
  rw [node?_of_ne_nil hl, List.lookup_eq_some_iff] at h
  obtain ⟨front, back, hentries, -⟩ := h
  rw [hentries]
  simp

/-- Other nodes stay when one is put. -/
theorem mem_of_mem_put {e : Location × Node} (he : e ∈ (t.put l n).entries)
    (hne : e.1 ≠ l) : e ∈ t.entries := by
  unfold FileTree.put at he
  split at he
  · obtain ⟨e', he', hreplaced⟩ := List.mem_map.mp he
    by_cases hkey : e'.1 = l
    · rw [if_pos (by simpa using hkey)] at hreplaced
      exact absurd (congrArg Prod.fst hreplaced).symm hne
    · rw [if_neg (by simpa using hkey)] at hreplaced
      rw [← hreplaced]
      exact he'
  · rcases List.mem_append.mp he with hmem | hnew
    · exact hmem
    · have hsame : e = (l, n) := List.mem_singleton.mp hnew
      exact absurd (congrArg Prod.fst hsame) hne

theorem nodup_put (h : (t.entries.map Prod.fst).Nodup) :
    ((t.put l n).entries.map Prod.fst).Nodup := by
  unfold FileTree.put
  split
  · have hkeys : (t.entries.map fun e => if e.1 == l then (l, n) else e).map
        Prod.fst = t.entries.map Prod.fst := by
      rw [List.map_map]
      apply List.map_congr_left
      intro e _
      by_cases he : e.1 = l
      · simp [he]
      · simp [he]
    show ((t.entries.map fun e => if e.1 == l then (l, n) else e).map
      Prod.fst).Nodup
    rw [hkeys]
    exact h
  · next hnone =>
      have hnew : l ∉ t.entries.map Prod.fst := by simpa using hnone
      show ((t.entries ++ [(l, n)]).map Prod.fst).Nodup
      rw [List.map_append, List.map_singleton, List.nodup_append]
      refine ⟨h, by simp, ?_⟩
      intro a ha b hb heq
      obtain rfl := List.mem_singleton.mp hb
      exact hnew (heq ▸ ha)

namespace WellFormed

theorem node?_of_mem (h : t.WellFormed) (hmem : (l, n) ∈ t.entries) :
    t.node? l = some n := by
  rw [node?_of_ne_nil (h.inDirs _ hmem).1]
  exact lookup_of_mem h.distinct hmem

/-- What is there stands in a directory. -/
theorem node?_dropLast (h : t.WellFormed) (hnode : t.node? l = some n) :
    t.node? l.dropLast = some .dir := by
  by_cases hl : l = []
  · subst hl
    rfl
  · exact (h.inDirs _ (mem_of_node? hl hnode)).2

/-- What is there stands in directories all the way. -/
theorem node?_front {r : Location} (h : t.WellFormed) (hr : r ≠ [])
    (hnode : t.node? (l ++ r) = some n) : t.node? l = some .dir := by
  induction r using List.reverseRecOn generalizing n with
  | nil => exact absurd rfl hr
  | append_singleton front last ih =>
      have hdir := h.node?_dropLast hnode
      rw [← List.append_assoc, List.dropLast_concat] at hdir
      by_cases hfront : front = []
      · rw [hfront, List.append_nil] at hdir
        exact hdir
      · exact ih hfront hdir

/-- A node may be put into a directory, unless it is a file and a directory is in
its place. -/
theorem put (h : t.WellFormed) (hl : l ≠ [])
    (hparent : t.node? l.dropLast = some .dir)
    (hroom : t.node? l = some .dir → n = .dir) : (t.put l n).WellFormed := by
  have hdirs : ∀ d, t.node? d = some .dir → (t.put l n).node? d = some .dir := by
    intro d hd
    by_cases heq : d = l
    · subst heq
      rw [node?_put_self hl, hroom hd]
    · rw [node?_put_of_ne heq, hd]
  constructor
  · exact nodup_put h.distinct
  · intro e he
    by_cases heq : e.1 = l
    · rw [heq]
      exact ⟨hl, hdirs _ hparent⟩
    · have hin := h.inDirs e (mem_of_mem_put he heq)
      exact ⟨hin.1, hdirs _ hin.2⟩

/-- Anything but a directory may be removed. -/
theorem remove (h : t.WellFormed) (hfile : t.node? l ≠ some .dir) :
    (t.remove l).WellFormed := by
  constructor
  · show ((t.entries.filter fun e => e.1 != l).map Prod.fst).Nodup
    exact h.distinct.sublist (List.filter_sublist.map Prod.fst)
  · intro e he
    obtain ⟨hne, hparent⟩ := h.inDirs e (List.mem_filter.mp he).1
    have hother : e.1.dropLast ≠ l := by
      intro heq
      exact hfile (heq ▸ hparent)
    exact ⟨hne, by rw [node?_remove_of_ne hother, hparent]⟩

end WellFormed

end FileTree

/-! ## Well-formed storages -/

/-- A storage as changes make it from an empty one. -/
structure Storage.WellFormed (s : Storage) : Prop where
  tree : s.tree.WellFormed
  /-- Nothing is called like the way back. -/
  forth : ∀ e ∈ s.tree.entries, ".." ∉ e.1
  workingDir : s.tree.node? s.workingDir = some .dir

instance Storage.decidableWellFormed (s : Storage) : Decidable s.WellFormed :=
  decidable_of_iff (s.tree.WellFormed ∧ (∀ e ∈ s.tree.entries, ".." ∉ e.1) ∧
    s.tree.node? s.workingDir = some .dir)
    ⟨fun h => ⟨h.1, h.2.1, h.2.2⟩, fun h => ⟨h.tree, h.forth, h.workingDir⟩⟩

namespace Storage

variable {s s' : Storage} {p : Path} {l here : Location} {parts : List String}

/-- Parts that lead to something that is no directory lead forward in the end, out
of a directory. -/
theorem exists_concat_of_follow {t : FileTree} (ht : t.WellFormed)
    (hhere : t.node? here = some .dir) (h : follow t here parts = .ok l)
    (hl : t.node? l ≠ some .dir) :
    ∃ front last, parts = front ++ [last] ∧ last ≠ ".." ∧
      t.node? (fold here front) = some .dir ∧ l = fold here front ++ [last] := by
  induction parts generalizing here with
  | nil =>
      obtain rfl := Except.ok.inj h
      exact absurd hhere hl
  | cons part parts ih =>
      rw [follow] at h
      split at h
      · next there hthere =>
          obtain ⟨-, -, hplace⟩ := enter_eq hthere
          by_cases hdir : t.node? there = some .dir
          · obtain ⟨front, last, hparts, hforth, hfront, hlast⟩ := ih hdir h
            have hcons : fold here (part :: front) = fold there front := by
              rw [hplace]
              rfl
            exact ⟨part :: front, last, by rw [hparts]; rfl, hforth,
              by rw [hcons]; exact hfront, by rw [hcons]; exact hlast⟩
          · cases parts with
            | cons next parts =>
                rw [follow] at h
                split at h
                · next hnext => exact absurd (enter_eq hnext).1 hdir
                · cases h
            | nil =>
                obtain rfl := Except.ok.inj h
                by_cases hback : part = ".."
                · rw [if_pos hback] at hplace
                  rw [hplace] at hdir
                  exact absurd (ht.node?_dropLast hhere) hdir
                · rw [if_neg hback] at hplace
                  exact ⟨[], part, rfl, hback, hhere, hplace⟩
      · cases h

/-- No part of a place leads back. -/
theorem forth_of_fold (hhere : ".." ∉ here) (parts : List String) :
    ".." ∉ fold here parts := by
  induction parts generalizing here with
  | nil => exact hhere
  | cons part parts ih =>
      apply ih
      show ".." ∉ if part = ".." then here.dropLast else here ++ [part]
      by_cases hback : part = ".."
      · rw [if_pos hback]
        intro hmem
        exact hhere ((List.dropLast_sublist here).subset hmem)
      · rw [if_neg hback]
        intro hmem
        rcases List.mem_append.mp hmem with hold | hnew
        · exact hhere hold
        · exact hback (List.mem_singleton.mp hnew).symm

namespace WellFormed

/-- Paths start in a directory. -/
theorem node?_start (h : s.WellFormed) (p : Path) :
    s.tree.node? (s.start p) = some .dir := by
  unfold start
  split
  · exact h.workingDir
  · rfl

/-- What is there is not called like the way back. -/
theorem forth_of_node? (h : s.WellFormed) {n : Node}
    (hnode : s.tree.node? l = some n) : ".." ∉ l := by
  by_cases hl : l = []
  · subst hl
    exact List.not_mem_nil
  · exact h.forth _ (FileTree.mem_of_node? hl hnode)

theorem forth_of_place (h : s.WellFormed) (p : Path) : ".." ∉ s.place p :=
  forth_of_fold (h.forth_of_node? (h.node?_start p)) p.parts

/-- **What a path leads to stands in a directory**, if it is none itself: the path
has a last part, and this leads forward. -/
theorem exists_concat_of_locate (h : s.WellFormed) (hlocate : s.locate p = .ok l)
    (hl : s.tree.node? l ≠ some .dir) :
    ∃ front last, p.parts = front ++ [last] ∧ last ≠ ".." ∧
      s.tree.node? (fold (s.start p) front) = some .dir ∧
      l = fold (s.start p) front ++ [last] := by
  unfold locate at hlocate
  split at hlocate
  · cases hlocate
  · split at hlocate
    · cases hlocate
    · exact exists_concat_of_follow h.tree (h.node?_start p) hlocate hl

/-- A node may be put where a path leads, unless there is a directory. -/
theorem put (h : s.WellFormed) (hlocate : s.locate p = .ok l)
    (hl : s.tree.node? l ≠ some .dir) (n : Node) :
    ({ s with tree := s.tree.put l n } : Storage).WellFormed := by
  have hne : l ≠ [] := by
    rintro rfl
    exact hl rfl
  have hparent : s.tree.node? l.dropLast = some .dir := by
    obtain ⟨front, last, -, -, hfront, hlast⟩ :=
      h.exists_concat_of_locate hlocate hl
    rw [hlast, List.dropLast_concat]
    exact hfront
  constructor
  · apply h.tree.put hne hparent
    intro hdir
    exact absurd hdir hl
  · intro e he
    by_cases heq : e.1 = l
    · rw [heq, locate_eq_place hlocate]
      exact h.forth_of_place p
    · exact h.forth e (FileTree.mem_of_mem_put he heq)
  · have hother : s.workingDir ≠ l := by
      rintro rfl
      exact hl h.workingDir
    show (s.tree.put l n).node? s.workingDir = some .dir
    rw [FileTree.node?_put_of_ne hother]
    exact h.workingDir

theorem remove (h : s.WellFormed) (hl : s.tree.node? l ≠ some .dir) :
    ({ s with tree := s.tree.remove l } : Storage).WellFormed := by
  constructor
  · exact h.tree.remove hl
  · intro e he
    exact h.forth e (List.mem_filter.mp he).1
  · have hother : s.workingDir ≠ l := by
      rintro rfl
      exact hl h.workingDir
    show (s.tree.remove l).node? s.workingDir = some .dir
    rw [FileTree.node?_remove_of_ne hother]
    exact h.workingDir

theorem makeDir (h : s.WellFormed) (hmake : s.makeDir p = .ok s') :
    s'.WellFormed := by
  unfold Storage.makeDir at hmake
  split at hmake
  · cases hmake
  · next l hl =>
      split at hmake
      · cases hmake
      · next hnone =>
          obtain rfl := Except.ok.inj hmake
          exact h.put hl (by simp [hnone]) _

theorem writeFile (h : s.WellFormed) {content : List UInt8}
    (hwrite : s.writeFile p content = .ok s') : s'.WellFormed := by
  unfold Storage.writeFile at hwrite
  split at hwrite
  · cases hwrite
  · next l hl =>
      split at hwrite
      · cases hwrite
      · next hnode =>
          obtain rfl := Except.ok.inj hwrite
          exact h.put hl hnode _

/-- **Saving a file** keeps a storage well formed, whether it succeeds or not. -/
theorem save (h : s.WellFormed) (p : Path) (content : List UInt8) :
    (s.save p content).1.WellFormed := by
  apply save_keeps (P := Storage.WellFormed)
  · intro s₁ q s₂ hs₁ hmake
    exact hs₁.makeDir hmake
  · intro s₁ s₂ hs₁ hwrite
    exact hs₁.writeFile hwrite
  · exact h

end WellFormed

end Storage

end TableSketch
