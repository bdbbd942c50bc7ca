import TableSketch.Proofs.Generation.Outputs

/-!
# Running again

A run that has succeeded on a directory could have been left at that: a second run
succeeds, too, returns the same results and leaves every location as it was
(`Work.generate_again`).  The output directory may be anywhere, also inside the
directory that is searched.

Nothing that the first run writes is a schema file, because results are not called
like one.  So the second run finds the same schema files (`Desk.Finds.again`) with the
same contents, and what it writes at a place is what the first one has written there.
It makes no directory either: the storage that the first run leaves is large enough for
its results, and what comes of the second one still fits into it.

## Main results

* `FileTree.node?_eq_of_fits` — trees that fit into each other, with the same files.
* `Desk.Finds.again` — the schema files that are found after a run.
* `Work.content?_generate_again` — what a second run writes.
* `Work.generate_again` — generating twice is generating once.
-/

namespace TableSketch

/-- Trees that fit into each other hold the same if their files have the same
contents. -/
theorem FileTree.node?_eq_of_fits {t t' : FileTree} (h : t.Fits t') (h' : t'.Fits t)
    (hfiles : ∀ l, t'.content? l = t.content? l) (l : Location) :
    t'.node? l = t.node? l := by
  cases hnode : t.node? l with
  | none =>
      cases hnode' : t'.node? l with
      | none => rfl
      | some n =>
          cases n with
          | dir =>
              rw [h'.dirs l hnode'] at hnode
              cases hnode
          | file content =>
              obtain ⟨content', hfile⟩ := h'.files l content hnode'
              rw [hfile] at hnode
              cases hnode
  | some n =>
      cases n with
      | dir => exact h.dirs l hnode
      | file content =>
          rw [← content?_eq_some_iff, hfiles]
          exact content?_eq_some_iff.mpr hnode

section Again

variable {L : Location → Prop} {d d' d'' : Desk} {o : Order} {path : Path}
variable {files : List Path} {rs rs' : List Results}

/-- An order for a directory stands for the same schema files while only other files
are written. -/
theorem Desk.Finds.again (hfinds : d.Finds o path (some path) files)
    (hdir : d.storage.find path = .ok (some .dir)) (hgrown : Desk.Grown L d d')
    (hL : ∀ l, L l → (⟨.relative, l⟩ : Path).isSketch = false) :
    d'.Finds o path (some path) files := by
  refine Desk.finds_of_dir ?_ (hgrown.storage.find_dir hdir) ?_
  · rw [hgrown.storage.home?_eq]
    exact hfinds.expands
  · rw [Discovery.find_of_grown hgrown.storage hdir hL]
    exact hfinds.finds

namespace Work

/-- **What a second run writes** is there already. -/
theorem content?_generate_again (ho : o.names.Apart)
    (h : (generate o).on d = (.ok rs, d')) (h' : (generate o).on d' = (.ok rs', d''))
    (hfinds : d.Finds o path (some path) files)
    (hfinds' : d'.Finds o path (some path) files)
    (hgrown : Desk.Grown (d.IsResult o (some path) files) d d')
    (hsketch : ∀ f ∈ files, f.isSketch = true) (l : Location) :
    d''.storage.tree.content? l = d'.storage.tree.content? l := by
  have hkept : ∀ f ∈ files, ¬ d.IsResult o (some path) files (d.storage.place f) :=
    fun f hf => Desk.not_isResult_of_isSketch ho (hsketch f hf)
  have hwritten : d'.written? o (some path) files l =
      d.written? o (some path) files l :=
    Desk.written?_eq hgrown.settings hgrown.storage.changed hkept l
  rw [(content?_generate ho h' hfinds' hsketch).2, hwritten,
    (content?_generate ho h hfinds hsketch).2, ← Option.or_assoc, Option.or_self]

/-- **Generating twice is generating once.**  If a run on a directory succeeds, then so
does another one after it, with the same results, and whatever is there afterwards was
there after the first one.  A search in the directory finds the same schema files before
the first run, between the runs and after them, and none of them is a result. -/
theorem generate_again (hnames : o.names = {}) (hwf : d.storage.WellFormed)
    (hpath : Path.expandHome? d.storage.home? o.path = some path)
    (hdir : d.storage.isDir path = .ok true)
    (h : (generate o).on d = (.ok rs, d')) :
    ∃ d'' files, (generate o).on d' = (.ok rs, d'') ∧
      (∀ l, d''.storage.tree.node? l = d'.storage.tree.node? l) ∧
      ({} : Discovery).find d.storage path = .ok files ∧
      ({} : Discovery).find d'.storage path = .ok files ∧
      ({} : Discovery).find d''.storage path = .ok files ∧
      ∀ f ∈ files, d'.storage.place f ∉ d'.storage.outputPlaces rs := by
  have ho : o.names.Apart := hnames ▸ ResultNames.apart_default
  have hfind := Storage.isDir_iff.mp hdir
  obtain ⟨files, hfiles⟩ := Discovery.exists_find {} hfind
  have hfinds : d.Finds o path (some path) files :=
    ⟨hpath, hfiles, false, Storage.isFile_of_dir hfind, rfl⟩
  have hsketch : ∀ f ∈ files, f.isSketch = true :=
    fun f hf => Discovery.isSketch_of_mem hfind hfiles hf
  obtain ⟨hrs, hgrown, -⟩ := of_generate_dir_eq_ok ho h hpath hdir hfiles
  -- Everything is ready for the second run, on the storage that the first one leaves.
  have hfind' := hgrown.storage.find_dir hfind
  have hfinds' : d'.Finds o path (some path) files :=
    hfinds.again hfind hgrown fun _ => Desk.isSketch_of_isResult ho
  have hwf' := wellFormed_generate o hwf
  rw [h] at hwf'
  obtain ⟨htold, hready⟩ := ready_of_generate ho h hfinds hsketch
  obtain ⟨rs', d'', hrun, hfits⟩ := exists_generate_of_ready ho hwf'
    (Storage.Fits.refl _) hfinds' hfind' htold hready
  obtain ⟨hrs', hgrown', -⟩ := of_generate_dir_eq_ok ho hrun hfinds'.expands
    (Storage.isDir_iff.mpr hfind') hfinds'.finds
  obtain rfl : rs' = rs := by rw [hrs', hrs, hgrown.settings]
  have hfinds'' : d''.Finds o path (some path) files :=
    hfinds'.again hfind' hgrown' fun _ => Desk.isSketch_of_isResult ho
  refine ⟨d'', files, hrun, ?_, hfiles, hfinds'.finds, hfinds''.finds, ?_⟩
  · exact FileTree.node?_eq_of_fits hgrown'.storage.tree.fits hfits.tree
      (content?_generate_again ho h hrun hfinds hfinds' hgrown hsketch)
  · intro f hf
    rw [hrs', Desk.mem_outputPlaces_iff ho]
    exact Desk.not_isResult_of_isSketch ho (hsketch f hf)

/-- Two runs with an output directory inside the directory that is searched. -/
theorem generate_again_of_nestedDesk :
    ∃ rs d' d'', (generate nestedOrder).on nestedDesk = (.ok rs, d') ∧
      (generate nestedOrder).on d' = (.ok rs, d'') ∧
      (∀ l, d''.storage.tree.node? l = d'.storage.tree.node? l) ∧
      ({} : Discovery).find d''.storage (.ofString "w") = .ok nestedFiles := by
  obtain ⟨rs, d', hrun, -⟩ := generate_nestedDesk
  obtain ⟨hwf, -, hpath, hdir, -⟩ := checked_nestedDesk
  obtain ⟨d'', files, hrun', hsame, hfiles, -, hfiles'', -⟩ :=
    generate_again rfl hwf hpath hdir hrun
  obtain rfl : files = nestedFiles :=
    Except.ok.inj (hfiles.symm.trans finds_nestedDesk.finds)
  exact ⟨rs, d', d'', hrun, hrun', hsame, hfiles''⟩

end Work

end Again

end TableSketch
