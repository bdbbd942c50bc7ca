import TableSketch.Proofs.Storage.Fitting
import TableSketch.Proofs.Storage.Listing

/-!
# Edits of schema files

Somebody else writes and removes schema files.  Such an edit changes the file that it
names and nothing more: directories stay, and what is in other files stays
(`Storage.changed_edits?`).  Other than a run, it may take a file away.

An output directory is emptied when all files in it and below it are removed that are
no schema files.  This takes no directory away either
(`FileTree.content?_emptied`).

## Main results

* `Storage.changed_edits?` — what edits do.
* `FileTree.content?_emptied`, `Storage.WellFormed.emptied` — emptying a directory.
-/

namespace TableSketch

/-- What somebody else does to a file. -/
inductive Edit where
  | write (p : Path) (content : List UInt8)
  | delete (p : Path)
  deriving Repr

/-- The file that is edited. -/
def Edit.path : Edit → Path
  | .write p _ => p
  | .delete p => p

namespace Storage

/-- Makes an edit, if it can be made. -/
def edit? (s : Storage) : Edit → Option Storage
  | .write p content =>
    match s.save p content with
    | (s', .ok ()) => some s'
    | (_, .error _) => none
  | .delete p =>
    match s.find p with
    | .ok (some (.file _)) => some { s with tree := s.tree.remove (s.place p) }
    | _ => none

/-- Makes edits one after the other, if they can be made. -/
def edits? (s : Storage) : List Edit → Option Storage
  | [] => some s
  | e :: es => (s.edit? e).bind fun s' => s'.edits? es

variable {L : Location → Prop} {s s' : Storage} {p : Path} {l : Location}
variable {e : Edit} {es : List Edit}

/-! ## What edits do -/

/-- The same file may be removed before and after a change. -/
theorem Changed.remove (h : Changed L s s') (hl : l ≠ []) :
    Changed L { s with tree := s.tree.remove l }
      { s' with tree := s'.tree.remove l } := by
  refine ⟨?_, fun l' hdir => ?_, fun l' hl' => ?_⟩
  · rw [h.same]
  · have hne : l' ≠ l := by
      rintro rfl
      have hgone := FileTree.node?_remove_self hl s.tree
      exact absurd (hgone.symm.trans hdir) (by simp)
    have hdir' : s.tree.node? l' = some .dir :=
      (FileTree.node?_remove_of_ne hne s.tree).symm.trans hdir
    exact (FileTree.node?_remove_of_ne hne s'.tree).trans (h.dirs l' hdir')
  · show (s'.tree.remove l).content? l' = (s.tree.remove l).content? l'
    by_cases heq : l' = l
    · subst heq
      rw [FileTree.content?, FileTree.content?, FileTree.node?_remove_self hl,
        FileTree.node?_remove_self hl]
    · have hsame := h.others l' hl'
      rw [FileTree.content?, FileTree.content?] at hsame ⊢
      rw [FileTree.node?_remove_of_ne heq, FileTree.node?_remove_of_ne heq]
      exact hsame

theorem changed_edit? (h : s.edit? e = some s') :
    Changed (· = s.place e.path) s s' ∧ (s.WellFormed → s'.WellFormed) := by
  cases e with
  | write p content =>
      rw [edit?] at h
      split at h
      · next s₁ hsave =>
          obtain rfl := Option.some.inj h
          have hgrown := grown_save s p content
          rw [hsave] at hgrown
          refine ⟨hgrown.changed, fun hwf => ?_⟩
          have hwf' := hwf.save p content
          rw [hsave] at hwf'
          exact hwf'
      · cases h
  | delete p =>
      rw [edit?] at h
      split at h
      · next content hfind =>
          obtain rfl := Option.some.inj h
          have hfile : s.tree.node? (s.place p) ≠ some .dir := by
            rw [(find_eq_some hfind).2]
            simp
          have hothers : ∀ l, l ≠ s.place p →
              (s.tree.remove (s.place p)).node? l = s.tree.node? l :=
            fun l hl => FileTree.node?_remove_of_ne hl s.tree
          refine ⟨⟨rfl, fun l hl => ?_, fun l hl => ?_⟩, fun hwf => hwf.remove hfile⟩
          · have hne : l ≠ s.place p := by
              rintro rfl
              exact hfile hl
            exact (hothers l hne).trans hl
          · show (s.tree.remove (s.place p)).content? l = s.tree.content? l
            rw [FileTree.content?, FileTree.content?, hothers l hl]
      · cases h

/-- A sketch is recognized at its place. -/
theorem isSketch_place (h : p.isSketch = true) (s : Storage) :
    (⟨.relative, s.place p⟩ : Path).isSketch = true := by
  obtain ⟨front, hfront⟩ := place_of_isSketch h s
  rw [← h, hfront]
  refine Path.isSketch_congr ?_
  exact Path.name_concat ⟨.relative, front⟩ p.name

/-- **Edits of schema files** change no other files. -/
theorem changed_edits? (hsketch : ∀ e ∈ es, e.path.isSketch = true)
    (h : s.edits? es = some s') :
    Changed (fun l => (⟨.relative, l⟩ : Path).isSketch = true) s s' ∧
      (s.WellFormed → s'.WellFormed) := by
  induction es generalizing s with
  | nil =>
      obtain rfl := Option.some.inj h
      exact ⟨.refl _ s, fun hwf => hwf⟩
  | cons e es ih =>
      obtain ⟨s₁, hedit, h⟩ := Option.bind_eq_some_iff.mp h
      obtain ⟨hchanged₁, hwf₁⟩ := changed_edit? hedit
      obtain ⟨hchanged₂, hwf₂⟩ :=
        ih (fun e' he' => hsketch e' (List.mem_cons_of_mem e he')) h
      refine ⟨(hchanged₁.mono ?_).trans hchanged₂, fun hwf => hwf₂ (hwf₁ hwf)⟩
      rintro l rfl
      exact isSketch_place (hsketch e List.mem_cons_self) s

end Storage

/-! ## Emptying a directory -/

/-- A pair is found by its key after others have been left out. -/
theorem lookup_filter {α β : Type} [BEq α] [LawfulBEq α] {es : List (α × β)}
    (hdistinct : (es.map Prod.fst).Nodup) (keep : α × β → Bool) (a : α) :
    (es.filter keep).lookup a = (es.lookup a).filter fun b => keep (a, b) := by
  induction es with
  | nil => rfl
  | cons e es ih =>
      obtain ⟨a', b⟩ := e
      rw [List.map_cons, List.nodup_cons] at hdistinct
      have hrest := ih hdistinct.2
      by_cases ha : a = a'
      · subst ha
        have hnone : es.lookup a = none := by
          rw [List.lookup_eq_none_iff]
          intro e he
          have hne : a ≠ e.1 := by
            intro heq
            have hmem : e.1 ∈ es.map Prod.fst := List.mem_map_of_mem he
            rw [← heq] at hmem
            exact hdistinct.1 hmem
          simpa using hne
        rw [List.lookup_cons_self, Option.filter_some]
        by_cases hkeep : keep (a, b) = true
        · rw [List.filter_cons_of_pos hkeep, List.lookup_cons_self, if_pos hkeep]
        · rw [List.filter_cons_of_neg hkeep, hrest, hnone, if_neg hkeep]
          rfl
      · have hkey : (a == a') = false := by simpa using ha
        rw [List.lookup_cons, hkey]
        by_cases hkeep : keep (a', b) = true
        · rw [List.filter_cons_of_pos hkeep, List.lookup_cons, hkey]
          exact hrest
        · rw [List.filter_cons_of_neg hkeep]
          exact hrest

namespace FileTree

variable {t : FileTree} {base l : Location}

/-- There is no file below a directory if there is no entry. -/
theorem content?_eq_none_below (h : ∀ e ∈ t.entries, ¬ base <+: e.1)
    (hl : base <+: l) : t.content? l = none := by
  by_contra hne
  obtain ⟨content, hcontent⟩ := Option.ne_none_iff_exists'.mp hne
  rw [content?_eq_some_iff] at hcontent
  have hnil : l ≠ [] := by
    rintro rfl
    cases hcontent
  exact h _ (mem_of_node? hnil hcontent) hl

/-- What is left when a directory is emptied: directories, schema files, and what is
elsewhere. -/
def leaves (base l : Location) (n : Node) : Bool :=
  n == .dir || !base.isPrefixOf l || (⟨.relative, l⟩ : Path).isSketch

/-- Empties a directory of all files that are no schema files. -/
def emptied (t : FileTree) (base : Location) : FileTree :=
  ⟨t.entries.filter fun e => leaves base e.1 e.2⟩

theorem node?_emptied (h : t.WellFormed) (base l : Location) :
    (t.emptied base).node? l = (t.node? l).filter (leaves base l) := by
  by_cases hl : l = []
  · subst hl
    rfl
  · rw [node?_of_ne_nil hl, node?_of_ne_nil hl]
    exact lookup_filter h.distinct _ l

/-- **What is in files** when a directory has been emptied. -/
theorem content?_emptied (h : t.WellFormed) (base l : Location) :
    (t.emptied base).content? l =
      if base <+: l ∧ (⟨.relative, l⟩ : Path).isSketch = false then none
      else t.content? l := by
  unfold content?
  rw [node?_emptied h]
  cases t.node? l with
  | none => simp
  | some n =>
      cases n with
      | dir => simp [leaves]
      | file content =>
          rw [Option.filter_some]
          by_cases hgone : base <+: l ∧ (⟨.relative, l⟩ : Path).isSketch = false
          · have hleaves : leaves base l (.file content) = false := by
              simp [leaves, hgone.1, hgone.2]
            rw [if_pos hgone, hleaves]
            rfl
          · have hleaves : leaves base l (.file content) = true := by
              rw [not_and, Bool.not_eq_false] at hgone
              simpa [leaves, Decidable.or_iff_not_imp_left] using hgone
            rw [if_neg hgone, if_pos hleaves]

/-- No directory is taken away. -/
theorem node?_emptied_dir (h : t.WellFormed) (hdir : t.node? l = some .dir) :
    (t.emptied base).node? l = some .dir := by
  rw [node?_emptied h, hdir]
  rfl

theorem WellFormed.emptied (h : t.WellFormed) (base : Location) :
    (t.emptied base).WellFormed := by
  constructor
  · exact h.distinct.sublist (List.filter_sublist.map Prod.fst)
  · intro e he
    obtain ⟨hne, hparent⟩ := h.inDirs e (List.mem_filter.mp he).1
    exact ⟨hne, node?_emptied_dir h hparent⟩

theorem fits_emptied (h : t.WellFormed) (base : Location) :
    (t.emptied base).Fits t := by
  constructor
  · intro l hl
    rw [node?_emptied h, Option.filter_eq_some_iff] at hl
    exact hl.1
  · intro l content hl
    rw [node?_emptied h, Option.filter_eq_some_iff] at hl
    exact ⟨content, hl.1⟩

end FileTree

/-- Empties a directory of all files that are no schema files. -/
def Storage.emptied (s : Storage) (base : Location) : Storage :=
  { s with tree := s.tree.emptied base }

namespace Storage

variable {s : Storage}

theorem changed_emptied (h : s.WellFormed) (base : Location) :
    Changed (fun l => base <+: l ∧ (⟨.relative, l⟩ : Path).isSketch = false) s
      (s.emptied base) := by
  refine ⟨rfl, fun l hl => FileTree.node?_emptied_dir h.tree hl, ?_⟩
  intro l hl
  exact (FileTree.content?_emptied h.tree base l).trans (if_neg hl)

theorem WellFormed.emptied (h : s.WellFormed) (base : Location) :
    (s.emptied base).WellFormed := by
  constructor
  · exact h.tree.emptied base
  · intro e he
    exact h.forth e (List.mem_filter.mp he).1
  · exact FileTree.node?_emptied_dir h.tree h.workingDir

theorem fits_emptied (h : s.WellFormed) (base : Location) : (s.emptied base).Fits s :=
  ⟨rfl, FileTree.fits_emptied h.tree base⟩

end Storage

end TableSketch
