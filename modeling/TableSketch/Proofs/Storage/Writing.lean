import TableSketch.Proofs.Storage.Growth
import TableSketch.Storage.Basic

/-!
# What writing does to a storage

A file is saved in two steps, the directories on the way to it and then the file
itself, and either may fail.  Whatever comes of them, the tree has grown, and no
place was changed but that of the file (`Storage.grown_save`).  If they succeed,
the file holds what was saved (`Storage.find_save`).

What could be done in a storage before it changed can be done in it afterwards, as
long as directories stay directories.  A path that could be followed leads to the
same place, and what stands there is still there, unless the place was changed.

## Main results

* `Storage.makeDirs_keeps`, `Storage.save_keeps` — what directories and files keep.
* `Storage.grown_save`, `Storage.find_save` — saving a file.
* `Storage.Changed.find_file`, `Storage.Changed.find_dir`,
  `Storage.Changed.readSketch` — what is found again.
-/

namespace TableSketch

namespace Storage

variable {s s' s'' : Storage} {p : Path} {l here : Location}
variable {L M : Location → Prop} {parts : List String}

/-- Directories have stayed, and so has what is in files, except at some places. -/
structure Changed (L : Location → Prop) (s s' : Storage) : Prop where
  /-- Paths mean the same. -/
  same : s' = { s with tree := s'.tree }
  dirs : ∀ l, s.tree.node? l = some .dir → s'.tree.node? l = some .dir
  others : ∀ l, ¬ L l → s'.tree.content? l = s.tree.content? l

theorem Changed.refl (L : Location → Prop) (s : Storage) : Changed L s s :=
  ⟨rfl, fun _ h => h, fun _ _ => rfl⟩

theorem Changed.trans (h : Changed L s s') (h' : Changed L s' s'') :
    Changed L s s'' := by
  refine ⟨?_, fun l hl => h'.dirs l (h.dirs l hl), fun l hl => ?_⟩
  · rw [h'.same, h.same]
  · rw [h'.others l hl, h.others l hl]

theorem Changed.mono (h : Changed L s s') (hLM : ∀ l, L l → M l) :
    Changed M s s' :=
  ⟨h.same, h.dirs, fun l hl => h.others l fun hL => hl (hLM l hL)⟩

/-- A storage has grown, and files were changed at some places at most. -/
structure Grown (L : Location → Prop) (s s' : Storage) : Prop where
  /-- Paths mean the same. -/
  same : s' = { s with tree := s'.tree }
  tree : s.tree.Grown L s'.tree

theorem Grown.refl (L : Location → Prop) (s : Storage) : Grown L s s :=
  ⟨rfl, .refl L s.tree⟩

theorem Grown.trans (h : Grown L s s') (h' : Grown L s' s'') :
    Grown L s s'' := by
  refine ⟨?_, h.tree.trans h'.tree⟩
  rw [h'.same, h.same]

theorem Grown.mono (h : Grown L s s') (hLM : ∀ l, L l → M l) : Grown M s s' :=
  ⟨h.same, h.tree.mono hLM⟩

theorem Grown.changed (h : Grown L s s') : Changed L s s' :=
  ⟨h.same, h.tree.dirs, fun _ hl => h.tree.content?_eq hl⟩

/-! ## Following paths -/

/-- A part that can be entered is a part of the place. -/
theorem enter_eq {t : FileTree} {part : String}
    (h : enter t here part = .ok l) :
    t.node? here = some .dir ∧ ¬ maxNameBytes < part.utf8ByteSize ∧
      l = if part = ".." then here.dropLast else here ++ [part] := by
  unfold enter at h
  split at h
  · cases h
  · cases h
  · next hdir =>
      split at h
      · cases h
      · next hsize => exact ⟨hdir, hsize, (Except.ok.inj h).symm⟩

/-- A path that can be followed leads to the place that it denotes. -/
theorem follow_eq_fold {t : FileTree} (h : follow t here parts = .ok l) :
    l = fold here parts := by
  induction parts generalizing here with
  | nil => exact (Except.ok.inj h).symm
  | cons part parts ih =>
      rw [follow] at h
      split at h
      · next there hthere =>
          obtain ⟨-, -, rfl⟩ := enter_eq hthere
          exact ih h
      · cases h

theorem locate_eq_place (h : s.locate p = .ok l) : l = s.place p := by
  unfold locate at h
  split at h
  · cases h
  · split at h
    · cases h
    · exact follow_eq_fold h

/-- What can be entered can be entered when directories have stayed. -/
theorem enter_of_dirs {t t' : FileTree} {part : String}
    (hdirs : ∀ l, t.node? l = some .dir → t'.node? l = some .dir)
    (h : enter t here part = .ok l) : enter t' here part = .ok l := by
  obtain ⟨hdir, hsize, rfl⟩ := enter_eq h
  simp only [enter, hdirs here hdir, if_neg hsize]

theorem follow_of_dirs {t t' : FileTree}
    (hdirs : ∀ l, t.node? l = some .dir → t'.node? l = some .dir)
    (h : follow t here parts = .ok l) : follow t' here parts = .ok l := by
  induction parts generalizing here with
  | nil => exact h
  | cons part parts ih =>
      rw [follow] at h
      split at h
      · next there hthere =>
          rw [follow, enter_of_dirs hdirs hthere]
          exact ih h
      · cases h

namespace Changed

theorem start_eq (h : Changed L s s') (p : Path) : s'.start p = s.start p := by
  rw [h.same]
  rfl

theorem place_eq (h : Changed L s s') (p : Path) : s'.place p = s.place p := by
  rw [place, place, h.start_eq]

theorem home?_eq (h : Changed L s s') : s'.home? = s.home? := by
  rw [h.same]
  rfl

/-- Paths that could be followed can be followed. -/
theorem locate (h : Changed L s s') (hl : s.locate p = .ok l) :
    s'.locate p = .ok l := by
  unfold Storage.locate at hl ⊢
  split at hl
  · cases hl
  · split at hl
    · cases hl
    · next hbad hsize =>
        rw [if_neg hbad, if_neg hsize, h.start_eq]
        exact follow_of_dirs h.dirs hl

end Changed

namespace Grown

theorem place_eq (h : Grown L s s') (p : Path) : s'.place p = s.place p :=
  h.changed.place_eq p

theorem home?_eq (h : Grown L s s') : s'.home? = s.home? :=
  h.changed.home?_eq

theorem locate (h : Grown L s s') (hl : s.locate p = .ok l) :
    s'.locate p = .ok l :=
  h.changed.locate hl

end Grown

/-! ## What stands at a path -/

/-- If anything is found, the path could be followed. -/
theorem find_eq_some {n : Node} (h : s.find p = .ok (some n)) :
    s.locate p = .ok (s.place p) ∧ s.tree.node? (s.place p) = some n := by
  unfold find at h
  split at h
  · next l hl =>
      obtain rfl := locate_eq_place hl
      exact ⟨hl, Except.ok.inj h⟩
  · cases h
  · cases h

theorem find_of_locate (h : s.locate p = .ok l) :
    s.find p = .ok (s.tree.node? l) := by
  rw [find, h]

theorem isDir_iff : s.isDir p = .ok true ↔ s.find p = .ok (some .dir) := by
  unfold isDir
  cases s.find p with
  | error e => simp [Except.map]
  | ok n => simp [Except.map]

theorem isFile_iff :
    s.isFile p = .ok true ↔ ∃ content, s.find p = .ok (some (.file content)) := by
  unfold isFile
  cases s.find p with
  | error e => simp [Except.map]
  | ok n =>
      cases n with
      | none => simp [Except.map]
      | some n =>
          cases n with
          | dir => simp [Except.map]
          | file content => simp [Except.map]

theorem exists_find_of_isThere (h : s.isThere p = .ok true) :
    ∃ n, s.find p = .ok (some n) := by
  unfold isThere at h
  cases hfind : s.find p with
  | error e =>
      rw [hfind] at h
      cases h
  | ok n =>
      rw [hfind] at h
      obtain ⟨n', rfl⟩ := Option.isSome_iff_exists.mp (Except.ok.inj h)
      exact ⟨n', rfl⟩

theorem exists_isFile {n : Node} (h : s.find p = .ok (some n)) :
    ∃ single, s.isFile p = .ok single := by
  rw [isFile, h]
  exact ⟨_, rfl⟩

theorem isFile_of_dir (h : s.find p = .ok (some .dir)) :
    s.isFile p = .ok false := by
  rw [isFile, h]
  rfl

theorem readSketch_eq {text : String} (h : s.readSketch p = .ok text) :
    ∃ content, s.find p = .ok (some (.file content)) ∧
      text = sketchText content := by
  unfold readSketch at h
  split at h
  · cases h
  · next l hl =>
      split at h
      · cases h
      · cases h
      · next content hnode =>
          exact ⟨content, by rw [find_of_locate hl, hnode],
            (Except.ok.inj h).symm⟩

theorem readSketch_of_find {content : List UInt8}
    (h : s.find p = .ok (some (.file content))) :
    s.readSketch p = .ok (sketchText content) := by
  obtain ⟨hl, hnode⟩ := find_eq_some h
  simp only [readSketch, hl, hnode]

/-- A directory is found again. -/
theorem Changed.find_dir (h : Changed L s s') (hfind : s.find p = .ok (some .dir)) :
    s'.find p = .ok (some .dir) := by
  obtain ⟨hl, hnode⟩ := find_eq_some hfind
  rw [find_of_locate (h.locate hl), h.dirs _ hnode]

/-- A file is found again, with what was in it if its place was not changed. -/
theorem Changed.find_file (h : Changed L s s') {content : List UInt8}
    (hfind : s.find p = .ok (some (.file content))) (hplace : ¬ L (s.place p)) :
    s'.find p = .ok (some (.file content)) := by
  obtain ⟨hl, hnode⟩ := find_eq_some hfind
  rw [← FileTree.content?_eq_some_iff, ← h.others _ hplace,
    FileTree.content?_eq_some_iff] at hnode
  rw [find_of_locate (h.locate hl), hnode]

theorem Changed.readSketch (h : Changed L s s') {text : String}
    (hread : s.readSketch p = .ok text) (hplace : ¬ L (s.place p)) :
    s'.readSketch p = .ok text := by
  obtain ⟨content, hfind, rfl⟩ := readSketch_eq hread
  exact readSketch_of_find (h.find_file hfind hplace)

namespace Grown

theorem find_dir (h : Grown L s s') (hfind : s.find p = .ok (some .dir)) :
    s'.find p = .ok (some .dir) :=
  h.changed.find_dir hfind

theorem find_file (h : Grown L s s') {content : List UInt8}
    (hfind : s.find p = .ok (some (.file content))) (hplace : ¬ L (s.place p)) :
    s'.find p = .ok (some (.file content)) :=
  h.changed.find_file hfind hplace

/-- A file is found again as a file, whatever is in it. -/
theorem isFile (h : Grown L s s') (hfile : s.isFile p = .ok true) :
    s'.isFile p = .ok true := by
  obtain ⟨content, hfind⟩ := isFile_iff.mp hfile
  obtain ⟨hl, hnode⟩ := find_eq_some hfind
  obtain ⟨content', hnode'⟩ := h.tree.files _ _ hnode
  exact isFile_iff.mpr
    ⟨content', by rw [find_of_locate (h.locate hl), hnode']⟩

/-- What stands at a path was there, if it is a directory now and anything was
there. -/
theorem find_dir_of_some (h : Grown L s s') {n : Node}
    (hfind : s.find p = .ok (some n)) (hdir : s'.find p = .ok (some .dir)) :
    n = .dir := by
  cases n with
  | dir => rfl
  | file content =>
      obtain ⟨hl, hnode⟩ := find_eq_some hfind
      obtain ⟨content', hnode'⟩ := h.tree.files _ _ hnode
      rw [find_of_locate (h.locate hl), hnode'] at hdir
      cases hdir

theorem readSketch (h : Grown L s s') {text : String}
    (hread : s.readSketch p = .ok text) (hplace : ¬ L (s.place p)) :
    s'.readSketch p = .ok text :=
  h.changed.readSketch hread hplace

end Grown

/-! ## Making directories -/

theorem grown_makeDir (h : s.makeDir p = .ok s') : Grown L s s' := by
  unfold makeDir at h
  split at h
  · cases h
  · next l hl =>
      split at h
      · cases h
      · next hnone =>
          obtain rfl := Except.ok.inj h
          have hne : l ≠ [] := by
            rintro rfl
            cases hnone
          exact ⟨rfl, FileTree.grown_put_dir hne hnone⟩

theorem settle_fst (s : Storage) (p : Path) (e : StorageError) :
    (s.settle p e).1 = s := by
  unfold settle
  split <;> rfl

/-- What is kept when a directory is made is kept when all directories on the way
are, whether all of them can be made or not. -/
theorem makeDirsRev_keeps {P : Storage → Prop}
    (hmake : ∀ s p s', P s → s.makeDir p = .ok s' → P s') (h : P s)
    (anchor : Anchor) (parts : List String) :
    P (s.makeDirsRev anchor parts).1 := by
  induction parts with
  | nil =>
      rw [makeDirsRev, settle_fst]
      exact h
  | cons part front ih =>
      rw [makeDirsRev]
      split
      · next s₁ hself => exact hmake _ _ _ h hself
      · split
        · next s₁ e hfront =>
            rw [hfront] at ih
            exact ih
        · next s₁ hfront =>
            rw [hfront] at ih
            split
            · next s₂ hself => exact hmake _ _ _ ih hself
            · rw [settle_fst]
              exact ih
      · rw [settle_fst]
        exact h

theorem makeDirs_keeps {P : Storage → Prop}
    (hmake : ∀ s p s', P s → s.makeDir p = .ok s' → P s') (h : P s) (p : Path) :
    P (s.makeDirs p).1 :=
  makeDirsRev_keeps hmake h p.anchor p.parts.reverse

/-! ## Writing files -/

theorem grown_writeFile {content : List UInt8}
    (h : s.writeFile p content = .ok s') :
    Grown (· = s.place p) s s' ∧ s'.find p = .ok (some (.file content)) := by
  unfold writeFile at h
  split at h
  · cases h
  · next l hl =>
      split at h
      · cases h
      · next hnode =>
          obtain rfl := Except.ok.inj h
          obtain rfl := locate_eq_place hl
          have hdir : s.tree.node? (s.place p) ≠ some .dir := hnode
          have hne : s.place p ≠ [] := fun hnil => hdir (by rw [hnil]; rfl)
          have hgrown : Grown (· = s.place p) s
              { s with tree := s.tree.put (s.place p) (.file content) } :=
            ⟨rfl, FileTree.grown_put_file hdir content⟩
          refine ⟨hgrown, ?_⟩
          rw [find_of_locate (hgrown.locate hl)]
          exact congrArg _ (FileTree.node?_put_self hne _ _)

/-- Writes a file, making the directories on the way. -/
def save (s : Storage) (p : Path) (content : List UInt8) :
    Storage × Except StorageError Unit :=
  match s.makeDirs p.parent with
  | (s', .error e) => (s', .error e)
  | (s', .ok ()) =>
    match s'.writeFile p content with
    | .ok s'' => (s'', .ok ())
    | .error e => (s', .error e)

theorem saveText_eq_save (s : Storage) (p : Path) (text : String) :
    s.saveText p text = s.save p (Text.encode text.toList) :=
  rfl

/-- What is kept when a directory is made and when a file is written is kept when
a file is saved, whether this succeeds or not. -/
theorem save_keeps {P : Storage → Prop} {content : List UInt8}
    (hmake : ∀ s q s', P s → s.makeDir q = .ok s' → P s')
    (hwrite : ∀ s s', P s → s.writeFile p content = .ok s' → P s') (h : P s) :
    P (s.save p content).1 := by
  have hdirs : P (s.makeDirs p.parent).1 := makeDirs_keeps hmake h p.parent
  unfold save
  split
  · next s₁ e hparent =>
      rw [hparent] at hdirs
      exact hdirs
  · next s₁ hparent =>
      rw [hparent] at hdirs
      split
      · next s₂ hfile => exact hwrite _ _ hdirs hfile
      · exact hdirs

/-- **Saving a file** changes no place but that of the file, whether it succeeds
or not. -/
theorem grown_save (s : Storage) (p : Path) (content : List UInt8) :
    Grown (· = s.place p) s (s.save p content).1 := by
  apply save_keeps (P := Grown (· = s.place p) s)
  · intro s₁ q s₂ hgrown hmake
    exact hgrown.trans (grown_makeDir hmake)
  · intro s₁ s₂ hgrown hwrite
    have hfile := (grown_writeFile hwrite).1
    rw [hgrown.place_eq] at hfile
    exact hgrown.trans hfile
  · exact .refl _ s

theorem grown_saveText (s : Storage) (p : Path) (text : String) :
    Grown (· = s.place p) s (s.saveText p text).1 := by
  rw [saveText_eq_save]
  exact grown_save s p _

/-- A file that was saved is there. -/
theorem find_save {content : List UInt8} (h : s.save p content = (s', .ok ())) :
    s'.find p = .ok (some (.file content)) := by
  unfold save at h
  split at h
  · cases h
  · next s₁ hmake =>
      split at h
      · next s₂ hwrite =>
          cases h
          exact (grown_writeFile hwrite).2
      · cases h

theorem find_saveText {text : String} (h : s.saveText p text = (s', .ok ())) :
    s'.find p = .ok (some (.file (Text.encode text.toList))) := by
  rw [saveText_eq_save] at h
  exact find_save h

end Storage

end TableSketch
