import TableSketch.Proofs.Storage.Invariant

/-!
# Storages with room

A storage fits into another one if its directories are directories there and its
files are files there.  Then everything that the larger one holds can be made in the
smaller one: the directories on the way to it are missing or they are there, but no
file is in the way (`Storage.WellFormed.makeDirs_of_fits`,
`Storage.WellFormed.save_of_fits`), and what comes of that still fits.

So whether files can be saved in a storage, one after the other, is told by a
storage that holds them all.  A storage in which a run has succeeded is one.

## Main results

* `Storage.Fits.locate_cases` — following a path in a smaller storage.
* `Storage.WellFormed.makeDirs_of_fits` — directories that can be made.
* `Storage.WellFormed.save_of_fits` — files that can be saved.
-/

namespace TableSketch

/-- The directories of a tree are directories in another one, and its files are
files there. -/
structure FileTree.Fits (t b : FileTree) : Prop where
  dirs : ∀ l, t.node? l = some .dir → b.node? l = some .dir
  files : ∀ l content, t.node? l = some (.file content) →
    ∃ content', b.node? l = some (.file content')

/-- A storage fits into another one in which paths mean the same. -/
structure Storage.Fits (s b : Storage) : Prop where
  same : b = { s with tree := b.tree }
  tree : s.tree.Fits b.tree

namespace FileTree

variable {t b : FileTree} {l : Location} {n : Node}

theorem Fits.refl (t : FileTree) : t.Fits t :=
  ⟨fun _ h => h, fun _ content h => ⟨content, h⟩⟩

/-- It is seen from the entries of a tree whether it fits. -/
theorem fits_of_entries
    (hdirs : ∀ e ∈ t.entries, e.2 = .dir → b.node? e.1 = some .dir)
    (hfiles : ∀ e ∈ t.entries, e.2 ≠ .dir → (b.content? e.1).isSome = true) :
    t.Fits b := by
  constructor
  · intro l hl
    by_cases hnil : l = []
    · subst hnil
      rfl
    · exact hdirs _ (mem_of_node? hnil hl) rfl
  · intro l content hl
    have hnil : l ≠ [] := by
      rintro rfl
      cases hl
    have hthere := hfiles _ (mem_of_node? hnil hl) (by simp)
    exact isSome_content?_iff.mp hthere

theorem Grown.fits {L : Location → Prop} (h : t.Grown L b) : t.Fits b :=
  ⟨h.dirs, h.files⟩

theorem Fits.trans {c : FileTree} (h : t.Fits b) (h' : b.Fits c) : t.Fits c := by
  refine ⟨fun l hl => h'.dirs l (h.dirs l hl), fun l content hl => ?_⟩
  obtain ⟨content', hl'⟩ := h.files l content hl
  exact h'.files l content' hl'

/-- Where the larger tree has a directory, the smaller one has a directory or
nothing. -/
theorem Fits.cases_of_dir (h : t.Fits b) (hdir : b.node? l = some .dir) :
    t.node? l = none ∨ t.node? l = some .dir := by
  cases hnode : t.node? l with
  | none => exact Or.inl rfl
  | some n =>
      cases n with
      | dir => exact Or.inr rfl
      | file content =>
          obtain ⟨content', hfile⟩ := h.files l content hnode
          rw [hdir] at hfile
          cases hfile

theorem Fits.put (h : t.Fits b) (hl : l ≠ [])
    (hdir : n = .dir → b.node? l = some .dir)
    (hfile : ∀ content, n = .file content →
      ∃ content', b.node? l = some (.file content')) : (t.put l n).Fits b := by
  constructor
  · intro l' hl'
    by_cases heq : l' = l
    · subst heq
      rw [node?_put_self hl] at hl'
      exact hdir (Option.some.inj hl')
    · rw [node?_put_of_ne heq] at hl'
      exact h.dirs l' hl'
  · intro l' content hl'
    by_cases heq : l' = l
    · subst heq
      rw [node?_put_self hl] at hl'
      exact hfile content (Option.some.inj hl')
    · rw [node?_put_of_ne heq] at hl'
      exact h.files l' content hl'

end FileTree

/-- A path that is too long without its last part is too long with it. -/
theorem Path.size_text_front (anchor : Anchor) (front : List String)
    (part : String) :
    (⟨anchor, front⟩ : Path).text.utf8ByteSize ≤ 2 ∨
      (⟨anchor, front⟩ : Path).text.utf8ByteSize ≤
        (⟨anchor, front ++ [part]⟩ : Path).text.utf8ByteSize := by
  by_cases hfront : front = []
  · left
    subst hfront
    cases anchor with
    | relative => decide
    | root => decide
    | doubleRoot => decide
  · right
    have hbody : ("/".intercalate front).utf8ByteSize ≤
        ("/".intercalate (front ++ [part])).utf8ByteSize := by
      rw [String.intercalate_append_of_ne_nil hfront (by simp),
        String.utf8ByteSize_append, String.utf8ByteSize_append]
      omega
    cases anchor with
    | relative => simpa [Path.text, hfront] using hbody
    | root =>
        simp only [Path.text, String.utf8ByteSize_append]
        omega
    | doubleRoot =>
        simp only [Path.text, String.utf8ByteSize_append]
        omega

namespace Storage

variable {s s' b : Storage} {p : Path} {l here : Location}
variable {parts front : List String} {part : String} {n : Node}

/-! ## Following paths -/

/-- Parts are followed on from where those in front of them lead. -/
theorem follow_append (t : FileTree) (here : Location) (front more : List String) :
    follow t here (front ++ more) =
      match follow t here front with
      | .ok there => follow t there more
      | .error e => .error e := by
  induction front generalizing here with
  | nil => rfl
  | cons next front ih =>
      rw [List.cons_append, follow, follow]
      cases enter t here next with
      | ok there => exact ih there
      | error e => rfl

theorem follow_singleton (t : FileTree) (here : Location) (part : String) :
    follow t here [part] = enter t here part := by
  rw [follow]
  cases enter t here part with
  | ok there => rfl
  | error e => rfl

/-- Whether a path can be read at all does not depend on the tree. -/
theorem locate_eq_follow (h : b.locate p = .ok l) (s : Storage) :
    s.locate p = follow s.tree (s.start p) p.parts := by
  unfold locate at h ⊢
  split at h
  · cases h
  · split at h
    · cases h
    · next hread hsize => rw [if_neg hread, if_neg hsize]

/-- A shorter path can be read, too. -/
theorem locate_front {anchor : Anchor}
    (h : b.locate ⟨anchor, front ++ [part]⟩ = .ok l) :
    ∃ there, b.locate ⟨anchor, front⟩ = .ok there ∧
      enter b.tree there part = .ok l := by
  have hfollow := h
  rw [locate_eq_follow h, follow_append] at hfollow
  split at hfollow
  · next there hthere =>
      rw [follow_singleton] at hfollow
      refine ⟨there, ?_, hfollow⟩
      unfold locate at h ⊢
      split at h
      · cases h
      · split at h
        · cases h
        · next hread hsize =>
            have hread' : ¬ (⟨anchor, front⟩ : Path).hasTerminator = true := by
              intro hbad
              apply hread
              unfold Path.hasTerminator at hbad ⊢
              rw [List.any_append, hbad]
              rfl
            have hsize' : ¬ maxPathBytes <
                (⟨anchor, front⟩ : Path).text.utf8ByteSize := by
              have hfront := Path.size_text_front anchor front part
              unfold maxPathBytes at hsize ⊢
              omega
            rw [if_neg hread', if_neg hsize']
            exact hthere
  · cases hfollow

/-- Following parts in a smaller tree leads to the same place, or it stops where
nothing is. -/
theorem follow_of_fits {t b : FileTree} (h : t.Fits b)
    (hl : follow b here parts = .ok l) :
    follow t here parts = .ok l ∨ follow t here parts = .error .notFound := by
  induction parts generalizing here with
  | nil => exact Or.inl hl
  | cons part parts ih =>
      rw [follow] at hl
      split at hl
      · next there hthere =>
          obtain ⟨hdir, hsize, rfl⟩ := enter_eq hthere
          rcases h.cases_of_dir hdir with hnone | hdir'
          · right
            simp only [follow, enter, hnone]
          · simp only [follow, enter, hdir', if_neg hsize]
            exact ih hl
      · cases hl

theorem Grown.fits {L : Location → Prop} (h : s.Grown L b) : s.Fits b :=
  ⟨h.same, h.tree.fits⟩

namespace Fits

theorem refl (s : Storage) : s.Fits s :=
  ⟨rfl, .refl s.tree⟩

theorem trans {c : Storage} (h : s.Fits b) (h' : b.Fits c) : s.Fits c := by
  refine ⟨?_, h.tree.trans h'.tree⟩
  rw [h'.same, h.same]

theorem changed (h : s.Fits b) : Changed (fun _ => True) s b :=
  ⟨h.same, h.tree.dirs, fun _ hl => absurd trivial hl⟩

theorem start_eq (h : s.Fits b) (p : Path) : b.start p = s.start p :=
  h.changed.start_eq p

theorem place_eq (h : s.Fits b) (p : Path) : b.place p = s.place p :=
  h.changed.place_eq p

theorem put (h : s.Fits b) (hl : l ≠ [])
    (hdir : n = .dir → b.tree.node? l = some .dir)
    (hfile : ∀ content, n = .file content →
      ∃ content', b.tree.node? l = some (.file content')) :
    ({ s with tree := s.tree.put l n } : Storage).Fits b :=
  ⟨h.same, h.tree.put hl hdir hfile⟩

/-- What fits still fits when something has been removed. -/
theorem remove (h : s.Fits b) (hl : l ≠ []) :
    ({ s with tree := s.tree.remove l } : Storage).Fits b := by
  have hkept : ∀ l' n, (s.tree.remove l).node? l' = some n →
      s.tree.node? l' = some n := by
    intro l' n hnode
    have hne : l' ≠ l := by
      rintro rfl
      rw [FileTree.node?_remove_self hl] at hnode
      cases hnode
    rw [FileTree.node?_remove_of_ne hne] at hnode
    exact hnode
  exact ⟨h.same, fun l' hdir => h.tree.dirs l' (hkept l' _ hdir),
    fun l' content hfile => h.tree.files l' content (hkept l' _ hfile)⟩

/-- **A path in a smaller storage** leads to the same place, or nothing is on the
way to it. -/
theorem locate_cases (h : s.Fits b) (hl : b.locate p = .ok l) :
    s.locate p = .ok l ∨ s.locate p = .error .notFound := by
  have hfollow := hl
  rw [locate_eq_follow hl, h.start_eq] at hfollow
  rw [locate_eq_follow hl]
  exact follow_of_fits h.tree hfollow

/-- A path leads on from a directory that is there. -/
theorem locate_concat {anchor : Anchor} (h : s.Fits b)
    (hl : b.locate ⟨anchor, front ++ [part]⟩ = .ok l)
    (hfront : s.find ⟨anchor, front⟩ = .ok (some .dir)) :
    s.locate ⟨anchor, front ++ [part]⟩ = .ok l := by
  obtain ⟨there, hthere, henter⟩ := locate_front hl
  obtain ⟨-, hsize, rfl⟩ := enter_eq henter
  obtain rfl := locate_eq_place hthere
  obtain ⟨hlocate, hnode⟩ := find_eq_some hfront
  rw [locate_eq_follow hthere] at hlocate
  rw [locate_eq_follow hl, follow_append]
  have hstart : s.start ⟨anchor, front ++ [part]⟩ = s.start ⟨anchor, front⟩ :=
    rfl
  rw [hstart, hlocate, h.place_eq]
  simp only [follow_singleton, enter, hnode, if_neg hsize]

end Fits

/-- Names lead to what is there, if they are not too long, which following them in
another tree tells. -/
theorem follow_of_node? {t b : FileTree} (ht : t.WellFormed)
    (hforth : ".." ∉ parts) (hl : follow b here parts = .ok l)
    (hnode : t.node? (here ++ parts) = some n) : follow t here parts = .ok l := by
  induction parts generalizing here with
  | nil => exact hl
  | cons part parts ih =>
      rw [List.mem_cons, not_or] at hforth
      rw [follow] at hl
      split at hl
      · next there hthere =>
          obtain ⟨-, hsize, hplace⟩ := enter_eq hthere
          rw [if_neg (Ne.symm hforth.1)] at hplace
          have hdir : t.node? here = some .dir :=
            ht.node?_front (by simp) hnode
          have henter : enter t here part = .ok there := by
            simp only [enter, hdir, if_neg hsize, if_neg (Ne.symm hforth.1), hplace]
          rw [follow, henter]
          apply ih hforth.2 hl
          rw [hplace, List.append_assoc, List.singleton_append]
          exact hnode
      · cases hl

/-- **What is there below a directory can be followed to**, if the names are not too
long for the larger storage. -/
theorem WellFormed.locate_below (hwf : s.WellFormed) (h : s.Fits b)
    (hdir : s.find p = .ok (some .dir)) (hforth : ".." ∉ parts)
    (hl : b.locate { p with parts := p.parts ++ parts } = .ok l)
    (hnode : s.tree.node? (s.place p ++ parts) = some n) :
    s.locate { p with parts := p.parts ++ parts } = .ok l := by
  obtain ⟨hlocate, -⟩ := find_eq_some hdir
  have hb := h.changed.locate hlocate
  have hfollow := hl
  rw [locate_eq_follow hl, follow_append] at hfollow ⊢
  rw [locate_eq_follow hb] at hlocate hb
  have hstart : ∀ s : Storage,
      s.start { p with parts := p.parts ++ parts } = s.start p := fun _ => rfl
  rw [hstart, hlocate]
  rw [hstart, hb] at hfollow
  exact follow_of_node? hwf.tree hforth hfollow hnode

/-! ## Making directories -/

theorem settle_of_find (h : s.find p = .ok (some .dir)) (e : StorageError) :
    s.settle p e = (s, .ok ()) := by
  rw [settle, isDir_iff.mpr h]

/-- A directory of the larger storage can be made in one that is there. -/
theorem Fits.makeDir_cases (h : s.Fits b) (hdir : b.find p = .ok (some .dir))
    (hlocate : s.locate p = .ok l) :
    (∃ s', s.makeDir p = .ok s' ∧ s'.Fits b ∧ s'.find p = .ok (some .dir)) ∨
      s.makeDir p = .error .alreadyThere ∧ s.find p = .ok (some .dir) := by
  obtain rfl := locate_eq_place hlocate
  obtain ⟨-, hnode⟩ := find_eq_some hdir
  rw [h.place_eq] at hnode
  rcases h.tree.cases_of_dir hnode with hnone | hthere
  · have hl : s.place p ≠ [] := by
      intro hnil
      rw [hnil] at hnone
      cases hnone
    have hmake : s.makeDir p =
        .ok { s with tree := s.tree.put (s.place p) .dir } := by
      simp only [makeDir, hlocate, hnone]
    refine Or.inl ⟨_, hmake, h.put hl (fun _ => hnode) ?_, ?_⟩
    · intro content hcontent
      cases hcontent
    · rw [find_of_locate ((grown_makeDir (L := fun _ => False) hmake).locate
        hlocate)]
      exact congrArg _ (FileTree.node?_put_self hl _ _)
  · right
    constructor
    · simp only [makeDir, hlocate, hthere]
    · rw [find_of_locate hlocate, hthere]

theorem Fits.makeDirsRev {anchor : Anchor} (h : s.Fits b)
    (hstart : s.tree.node? (s.start ⟨anchor, []⟩) = some .dir) {rev : List String}
    (hdir : b.find ⟨anchor, rev.reverse⟩ = .ok (some .dir)) :
    ∃ s', s.makeDirsRev anchor rev = (s', .ok ()) ∧ s'.Fits b ∧
      s'.find ⟨anchor, rev.reverse⟩ = .ok (some .dir) := by
  induction rev with
  | nil =>
      have hthere : s.find ⟨anchor, []⟩ = .ok (some .dir) := by
        have hlocate : s.locate ⟨anchor, []⟩ = .ok (s.start ⟨anchor, []⟩) := by
          have hlocate := (find_eq_some hdir).1
          rw [List.reverse_nil] at hlocate
          rw [locate_eq_follow hlocate]
          rfl
        rw [find_of_locate hlocate, hstart]
      exact ⟨s, settle_of_find hthere _, h, hthere⟩
  | cons part front ih =>
      obtain ⟨hlocate, -⟩ := find_eq_some hdir
      rcases h.locate_cases hlocate with hs | hs
      · rcases h.makeDir_cases hdir hs with ⟨s', hmake, hfits, hfind⟩ |
          ⟨hmake, hfind⟩
        · refine ⟨s', ?_, hfits, hfind⟩
          simp only [Storage.makeDirsRev, hmake]
        · refine ⟨s, ?_, h, hfind⟩
          simp only [Storage.makeDirsRev, hmake]
          exact settle_of_find hfind _
      · -- Something on the way is missing, so that it is made first.
        have hmissing : s.makeDir ⟨anchor, (part :: front).reverse⟩ =
            .error .notFound := by
          rw [makeDir, hs]
        rw [List.reverse_cons] at hdir hlocate hmissing ⊢
        obtain ⟨there, hthere, henter⟩ := locate_front hlocate
        obtain ⟨s₁, hfront, hfits₁, hfind₁⟩ :=
          ih (by rw [find_of_locate hthere, (enter_eq henter).1])
        have hs₁ := hfits₁.locate_concat hlocate hfind₁
        rcases hfits₁.makeDir_cases hdir hs₁ with ⟨s', hmake, hfits, hfind⟩ |
          ⟨hmake, hfind⟩
        · refine ⟨s', ?_, hfits, hfind⟩
          simp only [Storage.makeDirsRev, List.reverse_cons, hmissing, hfront, hmake]
        · refine ⟨s₁, ?_, hfits₁, hfind⟩
          simp only [Storage.makeDirsRev, List.reverse_cons, hmissing, hfront, hmake]
          exact settle_of_find hfind _

namespace WellFormed

/-- **Directories can be made** where the larger storage has a directory. -/
theorem makeDirs_of_fits (hwf : s.WellFormed) (h : s.Fits b)
    (hdir : b.find p = .ok (some .dir)) :
    ∃ s', s.makeDirs p = (s', .ok ()) ∧ s'.Fits b ∧
      s'.find p = .ok (some .dir) := by
  have hdir' : b.find ⟨p.anchor, p.parts.reverse.reverse⟩ = .ok (some .dir) := by
    rw [List.reverse_reverse]
    exact hdir
  have hmade := h.makeDirsRev (hwf.node?_start ⟨p.anchor, []⟩) hdir'
  rw [List.reverse_reverse] at hmade
  exact hmade

/-- **A file can be saved** where the larger storage has a file. -/
theorem save_of_fits (hwf : s.WellFormed) (h : s.Fits b)
    (hfile : b.isFile p = .ok true) (content : List UInt8) :
    ∃ s', s.save p content = (s', .ok ()) ∧ s'.Fits b := by
  obtain ⟨old, hfind⟩ := isFile_iff.mp hfile
  obtain ⟨hlocate, hnode⟩ := find_eq_some hfind
  obtain ⟨anchor, parts⟩ := p
  rcases List.eq_nil_or_concat parts with rfl | ⟨front, part, rfl⟩
  · have hdir := h.tree.dirs _ (hwf.node?_start ⟨anchor, []⟩)
    rw [← h.start_eq] at hdir
    exact absurd (hnode.symm.trans hdir) (by simp)
  · rw [List.concat_eq_append] at hlocate hnode ⊢
    obtain ⟨there, hthere, henter⟩ := locate_front hlocate
    have hparent : (⟨anchor, front ++ [part]⟩ : Path).parent = ⟨anchor, front⟩ := by
      rw [Path.parent, List.dropLast_concat]
    obtain ⟨s₁, hmake, hfits, hfind⟩ := hwf.makeDirs_of_fits h
      (p := ⟨anchor, front⟩) (by rw [find_of_locate hthere, (enter_eq henter).1])
    have hs₁ := hfits.locate_concat hlocate hfind
    have hplace : s₁.tree.node? (b.place ⟨anchor, front ++ [part]⟩) ≠
        some .dir := by
      intro hdir
      exact absurd (hnode.symm.trans (hfits.tree.dirs _ hdir)) (by simp)
    have hl : b.place ⟨anchor, front ++ [part]⟩ ≠ [] := by
      intro hnil
      rw [hnil] at hplace
      exact hplace rfl
    have hwrite : s₁.writeFile ⟨anchor, front ++ [part]⟩ content =
        .ok { s₁ with
          tree := s₁.tree.put (b.place ⟨anchor, front ++ [part]⟩)
            (.file content) } := by
      rw [Storage.writeFile, hs₁]
      dsimp only
      split
      · next hdir => exact absurd hdir hplace
      · rfl
    have hput : ({ s₁ with
        tree := s₁.tree.put (b.place ⟨anchor, front ++ [part]⟩)
          (.file content) } : Storage).Fits b := by
      apply hfits.put hl
      · intro hcontent
        cases hcontent
      · intro content' _
        exact ⟨old, hnode⟩
    refine ⟨_, ?_, hput⟩
    rw [Storage.save, hparent, hmake]
    simp only [hwrite]

end WellFormed

end Storage

end TableSketch
