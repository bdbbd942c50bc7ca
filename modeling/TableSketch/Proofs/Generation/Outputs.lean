import Mathlib.Data.List.Nodup
import Mathlib.Data.List.Pairwise
import TableSketch.Proofs.Generation.Ready
import TableSketch.Proofs.Generation.Targets
import TableSketch.Proofs.Generation.Written

/-!
# The results of a directory

A run that succeeds on a directory leaves three files for each schema file.  If no
two schema files have the same directory for their results, each of these files holds
what belongs to its schema file, and nothing else has changed; a schema file is never
written to, since no result is called like one (`Work.generate_leaves`).

The places of all results are listed in `Storage.outputPlaces`.  No place is listed
twice if and only if each schema file has a directory of its own, and this fails for
names that differ in the case of their suffix alone: `a.d2` and `a.D2` have the same
stem (`Work.outputPlaces_nodup_iff`).

## Main results

* `Work.generate_leaves` — what a run leaves behind.
* `Work.outputPlaces_nodup_iff` — when all results are different files.
-/

namespace TableSketch

/-- The places of all files of results. -/
def Storage.outputPlaces (s : Storage) (rs : List Results) : List Location :=
  (rs.flatMap Results.all).map s.place

section Places

variable {s : Storage} {n : ResultNames} {dir : Path} {d : Desk} {o : Order}
variable {root : Option Path} {files : List Path} {l : Location}

theorem Storage.outputPlaces_map (hn : n.Apart) (s : Storage)
    (dirOf : Path → Path) (files : List Path) :
    s.outputPlaces (files.map fun f => n.inDir (dirOf f)) =
      files.flatMap fun f => s.resultPlaces n (dirOf f) := by
  unfold Storage.outputPlaces
  rw [List.flatMap_map, List.map_flatMap]
  apply List.flatMap_congr
  intro f _
  exact (Storage.resultPlaces_eq hn s (dirOf f)).symm

theorem Desk.mem_outputPlaces_iff (ho : o.names.Apart) :
    l ∈ d.storage.outputPlaces
        (files.map fun f => o.names.inDir (o.dirOf d.settings root f)) ↔
      d.IsResult o root files l := by
  rw [Storage.outputPlaces_map ho, List.mem_flatMap]
  exact Iff.rfl

theorem Storage.Changed.outputPlaces_eq {L : Location → Prop} {s' : Storage}
    (h : s.Changed L s') (rs : List Results) :
    s'.outputPlaces rs = s.outputPlaces rs := by
  unfold Storage.outputPlaces
  exact List.map_congr_left fun p _ => h.place_eq p

/-- Results in one directory are not apart from each other. -/
theorem Storage.not_disjoint_resultPlaces {dir' : Path}
    (h : s.place dir = s.place dir') :
    ¬ (s.resultPlaces n dir).Disjoint (s.resultPlaces n dir') := by
  intro hdisjoint
  have hmem : s.place dir ++ [n.script] ∈ s.resultPlaces n dir :=
    List.mem_map.mpr ⟨n.script, n.script_mem, rfl⟩
  apply hdisjoint hmem
  unfold Storage.resultPlaces
  rw [← h]
  exact hmem

/-- **The places of results are different** if every schema file has a directory of
its own. -/
theorem Desk.nodup_flatMap_resultPlaces_iff (ho : o.names.Apart)
    (hfiles : files.Nodup) :
    (files.flatMap fun f =>
        d.storage.resultPlaces o.names (o.dirOf d.settings root f)).Nodup ↔
      ∀ f ∈ files, d.HasOwnDir o root files f := by
  rw [List.nodup_flatMap]
  constructor
  · rintro ⟨-, hpairwise⟩ f hf g hg hne heq
    have hsymm : Std.Symm (Function.onFun List.Disjoint fun f =>
        d.storage.resultPlaces o.names (o.dirOf d.settings root f)) :=
      ⟨fun _ _ hdisjoint l hl hl' => hdisjoint hl' hl⟩
    have hdisjoint := hpairwise.forall hg hf hne
    exact Storage.not_disjoint_resultPlaces heq hdisjoint
  · intro hown
    constructor
    · intro f _
      exact Storage.nodup_resultPlaces ho _ _
    · refine hfiles.imp_of_mem ?_
      intro f g hf hg hne l hl hl'
      exact Storage.not_mem_resultPlaces (hown g hg f hf hne) hl hl'

end Places

namespace Work

variable {d d' : Desk} {o : Order} {path : Path} {files : List Path}
variable {rs : List Results}

/-- A run that succeeds on a directory. -/
theorem of_generate_dir_eq_ok (ho : o.names.Apart)
    (h : (generate o).on d = (.ok rs, d'))
    (hpath : Path.expandHome? d.storage.home? o.path = some path)
    (hdir : d.storage.isDir path = .ok true)
    (hfiles : ({} : Discovery).find d.storage path = .ok files) :
    rs = (files.map fun f =>
        o.names.inDir (o.dirOf d.settings (some path) f)) ∧
      Desk.Grown (d.IsResult o (some path) files) d d' ∧
      ∀ f ∈ files, d.HasOwnDir o (some path) files f →
        d'.UpToDate o (some path) f := by
  have hfind := Storage.isDir_iff.mp hdir
  obtain ⟨path', node, files', top, hfinds, hnode, htop, hrs, hgrown, hdone⟩ :=
    exists_of_generate_eq_ok ho h
  obtain rfl : path' = path :=
    Option.some.inj (hfinds.expands.symm.trans hpath)
  obtain rfl : files' = files := Except.ok.inj (hfinds.finds.symm.trans hfiles)
  obtain rfl : node = .dir :=
    Option.some.inj (Except.ok.inj (hnode.symm.trans hfind))
  obtain rfl := htop rfl
  refine ⟨hrs, hgrown, ?_⟩
  intro f hf hown
  exact hdone f hf (Discovery.isSketch_of_mem hfind hfiles hf) hown

/-- **What a run on a directory leaves behind**, if every schema file has a directory
of its own for its results.  What is in a schema file is what was in it before the
run, wherever the output directory is. -/
theorem generate_leaves (hnames : o.names = {})
    (h : (generate o).on d = (.ok rs, d'))
    (hpath : Path.expandHome? d.storage.home? o.path = some path)
    (hdir : d.storage.isDir path = .ok true)
    (hfiles : ({} : Discovery).find d.storage path = .ok files)
    {policy : DuplicatePolicy}
    (hpolicy : DuplicatePolicy.ofName? d.settings.duplicates = some policy)
    (hown : ∀ f ∈ files, d.HasOwnDir o (some path) files f) :
    rs = (files.map fun f =>
        o.names.inDir (o.dirOf d.settings (some path) f)) ∧
      (∀ f ∈ files, ∃ content,
        d.storage.tree.node? (d.storage.place f) = some (.file content) ∧
        d'.storage.find f = .ok (some (.file content)) ∧
        let r := o.names.inDir (o.dirOf d.settings (some path) f)
        let ts := resolveDuplicates policy
          (tables d.settings.scanMode (Storage.sketchText content))
        let script := Ddl.script ts o.flags d.settings.dimension
        d'.storage.Holds r.script (script ++ "\n") ∧
          d'.storage.Holds r.preview
            (Preview.markdown ts o.flags d.settings.dimension) ∧
          d'.storage.Holds r.prompt (Prompt.ofScript script ++ "\n")) ∧
      ∀ l, l ∉ d.storage.outputPlaces rs → ∀ content,
        d'.storage.tree.node? l = some (.file content) ↔
          d.storage.tree.node? l = some (.file content) := by
  have ho : o.names.Apart := hnames ▸ ResultNames.apart_default
  obtain ⟨hrs, hgrown, hdone⟩ := of_generate_dir_eq_ok ho h hpath hdir hfiles
  refine ⟨hrs, ?_, ?_⟩
  · intro f hf
    obtain ⟨text, texts, hread, htexts, hholds⟩ := hdone f hf (hown f hf)
    obtain ⟨content, hfind, rfl⟩ := Storage.readSketch_eq hread
    rw [hgrown.settings, Settings.resultTexts?, hpolicy] at htexts
    obtain rfl := Option.some.inj htexts
    rw [hgrown.settings] at hholds
    refine ⟨content, ?_, hfind, hholds.script, hholds.preview, hholds.prompt⟩
    -- No result is where the schema file is, so that it was there before.
    have hsketch : f.isSketch = true :=
      Discovery.isSketch_of_mem (Storage.isDir_iff.mp hdir) hfiles hf
    have hkept : ¬ d.IsResult o (some path) files (d.storage.place f) :=
      Desk.not_isResult_of_isSketch ho hsketch
    have hnode := (Storage.find_eq_some hfind).2
    rw [hgrown.storage.place_eq] at hnode
    exact (hgrown.storage.tree.others _ hkept content).mp hnode
  · intro l hl
    apply hgrown.storage.tree.others
    rw [hrs, Desk.mem_outputPlaces_iff ho] at hl
    exact hl

/-- Two schema files of one name, with results that go below the directory that is
searched. -/
def nestedDesk : Desk where
  storage.tree := ⟨[(["w"], .dir),
    (["w", "a.d2"], .file (Text.encode "T: {shape: sql_table}".toList)),
    (["w", "s"], .dir), (["w", "s", "a.d2"], .file [])]⟩

def nestedOrder : Order where
  path := .ofString "w"
  outputDir := some (.ofString "w/out")

def nestedFiles : List Path :=
  [.ofString "w/a.d2", .ofString "w/s/a.d2"]

/-- The same files, with those that a run writes. -/
def nestedRoom : Storage where
  tree := ⟨nestedDesk.storage.tree.entries ++ [(["w", "out"], .dir),
    (["w", "out", "a"], .dir), (["w", "out", "a", "schema.sql"], .file []),
    (["w", "out", "a", "schema_preview.md"], .file []),
    (["w", "out", "a", "prompt.md"], .file []), (["w", "out", "s"], .dir),
    (["w", "out", "s", "a"], .dir),
    (["w", "out", "s", "a", "schema.sql"], .file []),
    (["w", "out", "s", "a", "schema_preview.md"], .file []),
    (["w", "out", "s", "a", "prompt.md"], .file [])]⟩

/-- What evaluation tells about them. -/
theorem checked_nestedDesk :
    nestedDesk.storage.WellFormed ∧ nestedDesk.storage.tree.IsNamed ∧
      Path.expandHome? nestedDesk.storage.home? nestedOrder.path =
        some (.ofString "w") ∧
      nestedDesk.storage.isDir (.ofString "w") = .ok true ∧
      Sayable nestedDesk.columns (foundLine nestedFiles.length) ∧
      ∀ f ∈ nestedFiles,
        nestedDesk.Ready nestedOrder (some (.ofString "w")) nestedRoom f ∧
          nestedDesk.HasOwnDir nestedOrder (some (.ofString "w")) nestedFiles f := by
  decide +kernel

theorem finds_nestedDesk :
    nestedDesk.Finds nestedOrder (.ofString "w") (some (.ofString "w"))
      nestedFiles := by
  obtain ⟨-, -, hpath, hdir, -⟩ := checked_nestedDesk
  exact Desk.finds_of_pairwise hpath (Storage.isDir_iff.mp hdir) (by decide) (by decide)

theorem generate_nestedDesk : ∃ rs d', (generate nestedOrder).on nestedDesk =
    (.ok rs, d') ∧ d'.storage.Fits nestedRoom := by
  obtain ⟨hwf, -, -, hdir, htold, hfiles⟩ := checked_nestedDesk
  have hfits : nestedDesk.storage.Fits nestedRoom :=
    ⟨rfl, FileTree.fits_of_entries (by decide) (by decide)⟩
  exact exists_generate_of_ready ResultNames.apart_default hwf hfits
    finds_nestedDesk (Storage.isDir_iff.mp hdir) htold fun f hf => (hfiles f hf).1

/-- The results of a schema file without tables, which is read when the results of
another one are there. -/
theorem generate_leaves_of_nestedDesk :
    ∃ rs d', (generate nestedOrder).on nestedDesk = (.ok rs, d') ∧
      d'.storage.find (.ofString "w/s/a.d2") = .ok (some (.file [])) ∧
      d'.storage.Holds (.ofString "w/out/s/a/schema.sql")
        "-- No valid tables found.\n-- Use shape: sql_table\n" := by
  obtain ⟨rs, d', hrun, -⟩ := generate_nestedDesk
  refine ⟨rs, d', hrun, ?_⟩
  obtain ⟨-, -, hpath, hdir, -, hfiles⟩ := checked_nestedDesk
  have hpolicy : DuplicatePolicy.ofName? nestedDesk.settings.duplicates =
      some .keep := by
    decide
  obtain ⟨-, hleaves, -⟩ := generate_leaves rfl hrun hpath hdir
    finds_nestedDesk.finds hpolicy fun f hf => (hfiles f hf).2
  obtain ⟨content, hbefore, hafter, hscript, -, -⟩ :=
    hleaves (.ofString "w/s/a.d2") (by simp [nestedFiles])
  have hempty : nestedDesk.storage.tree.node?
      (nestedDesk.storage.place (.ofString "w/s/a.d2")) = some (.file []) := by
    decide
  rw [hempty] at hbefore
  cases hbefore
  exact ⟨hafter, hscript⟩

/-- No schema file is found twice. -/
theorem nodup_of_find (hwf : d.storage.WellFormed)
    (hdir : d.storage.isDir path = .ok true)
    (hfiles : ({} : Discovery).find d.storage path = .ok files) :
    files.Nodup := by
  rw [Discovery.find_of_dir {} (Storage.isDir_iff.mp hdir)] at hfiles
  obtain rfl := Except.ok.inj hfiles
  refine List.Pairwise.map _ ?_ (Discovery.nodup_filesBelow hwf.tree)
  intro r r' hne heq
  exact hne (List.append_cancel_left (congrArg Path.parts heq))

/-- **Two schema files have the same directory** for their results if nothing tells
them apart but their suffixes, provided that their stems are proper. -/
theorem place_dirOf_eq_iff (hwf : d.storage.WellFormed)
    (hnamed : d.storage.tree.IsNamed) {file file' : Path}
    (hfinds : d.Finds o path (some path) files) (hf : file ∈ files)
    (hf' : file' ∈ files) (hstem : file.HasProperStem)
    (hstem' : file'.HasProperStem) :
    d.storage.place (o.dirOf d.settings (some path) file) =
        d.storage.place (o.dirOf d.settings (some path) file') ↔
      file.parent = file'.parent ∧ file.stem = file'.stem := by
  have hparent : ∀ f ∈ files, f.parent =
      { path with parts := path.parts ++ f.between (some path) } := by
    intro f hf
    rcases hfinds.cases hf with ⟨-, -, htop, -⟩ | ⟨-, -, r, hr, rfl⟩
    · cases htop
    · obtain ⟨front, last, rfl, -⟩ := Desk.Finds.exists_concat hwf hr
      simp [Path.parent, Path.between]
  rw [hfinds.place_dirOf hwf hnamed hf, if_neg hstem.1, if_neg hstem.2,
    hfinds.place_dirOf hwf hnamed hf', if_neg hstem'.1, if_neg hstem'.2,
    hparent _ hf, hparent _ hf']
  constructor
  · intro heq
    obtain ⟨hbetween, hlast⟩ := List.append_inj' heq rfl
    rw [List.append_cancel_left hbetween]
    exact ⟨rfl, List.singleton_inj.mp hlast⟩
  · rintro ⟨hparents, hstems⟩
    have hparts : path.parts ++ file.between (some path) =
        path.parts ++ file'.between (some path) := congrArg Path.parts hparents
    rw [List.append_cancel_left hparts, hstems]

/-- **When all results are different files**, three for each schema file: if and only
if every schema file has a directory of its own for them.  If all stems are proper,
these are the runs that find no two schema files that differ in nothing but their
suffixes. -/
theorem outputPlaces_nodup_iff (hnames : o.names = {})
    (h : (generate o).on d = (.ok rs, d'))
    (hpath : Path.expandHome? d.storage.home? o.path = some path)
    (hdir : d.storage.isDir path = .ok true)
    (hfiles : ({} : Discovery).find d.storage path = .ok files)
    (hwf : d.storage.WellFormed) (hnamed : d.storage.tree.IsNamed) :
    (d.storage.outputPlaces rs).length = 3 * files.length ∧
      (∀ l ∈ d.storage.outputPlaces rs, ∃ content,
        d'.storage.tree.node? l = some (.file content)) ∧
      ((d.storage.outputPlaces rs).Nodup ↔
        ∀ f ∈ files, d.HasOwnDir o (some path) files f) ∧
      ((∀ f ∈ files, f.HasProperStem) →
        ((d.storage.outputPlaces rs).Nodup ↔ ∀ f ∈ files, ∀ g ∈ files,
          f.parent = g.parent → f.stem = g.stem → f = g)) := by
  have ho : o.names.Apart := hnames ▸ ResultNames.apart_default
  have hfind := Storage.isDir_iff.mp hdir
  have hfinds : d.Finds o path (some path) files :=
    ⟨hpath, hfiles, false, Storage.isFile_of_dir hfind, rfl⟩
  have hsketch : ∀ f ∈ files, f.isSketch = true :=
    fun f hf => Discovery.isSketch_of_mem hfind hfiles hf
  obtain ⟨hrs, -, -⟩ := of_generate_dir_eq_ok ho h hpath hdir hfiles
  have hplaces : d.storage.outputPlaces rs = files.flatMap fun f =>
      d.storage.resultPlaces o.names (o.dirOf d.settings (some path) f) := by
    rw [hrs, Storage.outputPlaces_map ho]
  have hiff : (d.storage.outputPlaces rs).Nodup ↔
      ∀ f ∈ files, d.HasOwnDir o (some path) files f := by
    rw [hplaces]
    exact Desk.nodup_flatMap_resultPlaces_iff ho
      (nodup_of_find hwf hdir hfiles)
  refine ⟨?_, ?_, hiff, ?_⟩
  · rw [hplaces, List.length_flatMap]
    simp [Storage.resultPlaces, ResultNames.all, Nat.mul_comm]
  · obtain ⟨htexts, hcontent⟩ := content?_generate ho h hfinds hsketch
    intro l hl
    rw [hrs, Desk.mem_outputPlaces_iff ho,
      ← Desk.isSome_written?_iff htexts] at hl
    rw [← FileTree.isSome_content?_iff, hcontent, Option.isSome_or, hl]
    rfl
  · intro hproper
    rw [hiff]
    constructor
    · intro hown f hf g hg hparent hstem
      by_contra hne
      apply hown g hg f hf hne
      rw [place_dirOf_eq_iff hwf hnamed hfinds hf hg (hproper f hf)
        (hproper g hg)]
      exact ⟨hparent, hstem⟩
    · intro hdifferent f hf g hg hne heq
      rw [place_dirOf_eq_iff hwf hnamed hfinds hg hf (hproper g hg)
        (hproper f hf)] at heq
      exact hne (hdifferent g hg f hf heq.1 heq.2)

/-- The results of two schema files of one name in two directories are six files. -/
theorem outputPlaces_nodup_of_nestedDesk :
    ∃ rs d', (generate nestedOrder).on nestedDesk = (.ok rs, d') ∧
      (nestedDesk.storage.outputPlaces rs).length = 6 ∧
      (nestedDesk.storage.outputPlaces rs).Nodup := by
  obtain ⟨rs, d', hrun, -⟩ := generate_nestedDesk
  obtain ⟨hwf, hnamed, hpath, hdir, -, hfiles⟩ := checked_nestedDesk
  obtain ⟨hlength, -, hiff, -⟩ := outputPlaces_nodup_iff rfl hrun hpath hdir
    finds_nestedDesk.finds hwf hnamed
  exact ⟨rs, d', hrun, hlength, hiff.mpr fun f hf => (hfiles f hf).2⟩

/-- Two schema files whose names differ in the case of their suffixes. -/
def cramped : Desk where
  storage.tree := ⟨[(["w"], .dir),
    (["w", "a.D2"], .file (Text.encode "B: {shape: sql_table; y: int}".toList)),
    (["w", "a.d2"], .file (Text.encode "A: {shape: sql_table; x: int}".toList))]⟩

def crampedOrder : Order where
  path := .ofString "w"

/-- The same files, with those that a run writes. -/
def crampedRoom : Storage where
  tree := ⟨cramped.storage.tree.entries ++ [(["out"], .dir), (["out", "a"], .dir),
    (["out", "a", "schema.sql"], .file []),
    (["out", "a", "schema_preview.md"], .file []),
    (["out", "a", "prompt.md"], .file [])]⟩

def crampedFiles : List Path :=
  [.ofString "w/a.D2", .ofString "w/a.d2"]

theorem checked_cramped :
    cramped.storage.WellFormed ∧
      Path.expandHome? cramped.storage.home? crampedOrder.path =
        some (.ofString "w") ∧
      cramped.storage.isDir (.ofString "w") = .ok true ∧
      Sayable cramped.columns (foundLine crampedFiles.length) ∧
      ∀ f ∈ crampedFiles,
        cramped.Ready crampedOrder (some (.ofString "w")) crampedRoom f := by
  decide +kernel

theorem finds_cramped : cramped.Finds crampedOrder (.ofString "w")
    (some (.ofString "w")) crampedFiles := by
  obtain ⟨-, hpath, hdir, -⟩ := checked_cramped
  exact Desk.finds_of_pairwise hpath (Storage.isDir_iff.mp hdir) (by decide) (by decide)

/-- Their results are the same three files, in which those of the first are lost. -/
theorem outputPlaces_of_cramped :
    ∃ r d', (generate crampedOrder).on cramped = (.ok [r, r], d') ∧
      ({} : Discovery).find cramped.storage (.ofString "w") =
        .ok [.ofString "w/a.D2", .ofString "w/a.d2"] ∧
      ¬ (cramped.storage.outputPlaces [r, r]).Nodup ∧
      d'.storage.tree.content? ["out", "a", "schema.sql"] =
        some (Text.encode "CREATE TABLE A (\n  x INT\n);\n".toList) := by
  have ho : crampedOrder.names.Apart := ResultNames.apart_default
  obtain ⟨hwf, hpath, hdir, htold, hready⟩ := checked_cramped
  have hfits : cramped.storage.Fits crampedRoom :=
    ⟨rfl, FileTree.fits_of_entries (by decide) (by decide)⟩
  obtain ⟨rs, d', hrun, -⟩ := exists_generate_of_ready ho hwf hfits finds_cramped
    (Storage.isDir_iff.mp hdir) htold hready
  obtain ⟨hrs, -, -⟩ :=
    of_generate_dir_eq_ok ho hrun hpath hdir finds_cramped.finds
  have hresults : rs = [⟨.ofString "out/a/schema.sql",
      .ofString "out/a/schema_preview.md", .ofString "out/a/prompt.md"⟩,
      ⟨.ofString "out/a/schema.sql", .ofString "out/a/schema_preview.md",
      .ofString "out/a/prompt.md"⟩] := by
    rw [hrs]
    decide
  rw [hresults] at hrun
  refine ⟨_, d', hrun, finds_cramped.finds, by decide, ?_⟩
  have hsketch : ∀ f ∈ crampedFiles, f.isSketch = true :=
    fun f hf => (hready f hf).sketch
  rw [(content?_generate ho hrun finds_cramped hsketch).2]
  decide

end Work

end TableSketch
