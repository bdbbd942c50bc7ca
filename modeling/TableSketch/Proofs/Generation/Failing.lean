import TableSketch.Proofs.Generation.Keeping
import TableSketch.Proofs.Generation.Outputs

/-!
# Runs that fail

A run that fails has written the results of the schema files in front of the one that
it failed at, and some of the results of that one; it has not come to those behind it
(`Work.failing_run`).  What has been written for the first ones is what any run writes
for them, unless a later file has the same directory for its results.

It is an induction on the schema files (`Work.exists_of_mapM_eq_error`).  The ones in
front have succeeded, so that `Work.of_mapM_eq_ok` tells what they have left behind,
and the failing one can only have touched results of its own (`Work.grown_generateFile`).

## Main results

* `Work.exists_of_mapM_eq_error` — where work on a list has failed.
* `Work.grown_generateFile` — what a schema file can change, whether it fails or not.
* `Work.of_mapM_eq_error`, `Work.of_generate_dir_eq_error` — schema files up to the one
  that fails.
* `Work.failing_run` — a run on a directory that fails.
-/

namespace TableSketch

namespace Work

variable {α β : Type} {d d' : Desk} {o : Order} {root : Option Path}
variable {path file : Path} {files : List Path} {f : Failure}

/-! ## Where work has failed -/

/-- Work that fails has failed in its first part, or in the rest. -/
theorem cases_of_on_bind_eq_error {w : Work α} {k : α → Work β}
    (h : (w >>= k).on d = (.error f, d')) :
    w.on d = (.error f, d') ∨
      ∃ a d₁, w.on d = (.ok a, d₁) ∧ (k a).on d₁ = (.error f, d') := by
  rw [on_bind] at h
  split at h
  · next a d₁ hw => exact Or.inr ⟨a, d₁, hw, h⟩
  · next f' d₁ hw =>
      cases h
      exact Or.inl hw

/-- **Where work on a list has failed**: it has succeeded for all that is in front. -/
theorem exists_of_mapM_eq_error {g : α → Work β} {as : List α}
    (h : (as.mapM g).on d = (.error f, d')) :
    ∃ front a rest bs d₁, as = front ++ a :: rest ∧
      (front.mapM g).on d = (.ok bs, d₁) ∧ (g a).on d₁ = (.error f, d') := by
  induction as generalizing d with
  | nil => cases h
  | cons a as ih =>
      rw [List.mapM_cons] at h
      rcases cases_of_on_bind_eq_error h with hfails | ⟨b, d₁, hfirst, h⟩
      · exact ⟨[], a, as, [], d, rfl, rfl, hfails⟩
      rcases cases_of_on_bind_eq_error h with hfails | ⟨bs, d₂, -, h⟩
      · obtain ⟨front, a', rest, bs, d₂, rfl, hfront, hfails⟩ := ih hfails
        refine ⟨a :: front, a', rest, b :: bs, d₂, rfl, ?_, hfails⟩
        rw [List.mapM_cons, on_bind_of_ok hfirst, on_bind_of_ok hfront]
        rfl
      · cases h

/-! ## Schema files -/

/-- **A schema file changes no files but results of its own**, whether it fails or not. -/
theorem grown_generateFile (ho : o.names.Apart) (root : Option Path) (file : Path)
    (d : Desk) : Desk.Grown (d.IsResult o root [file]) d
      ((generateFile o root file).on d).2 := by
  have hstable : Stable d.settings o root [file]
      (Desk.Grown (d.IsResult o root [file]) d) := by
    constructor
    · exact fun e he => he.settings
    · exact fun e text he => ⟨he.settings, he.storage⟩
    · exact fun e messages he => ⟨he.settings, he.storage⟩
    · intro e g p text he hg hp
      refine ⟨he.settings, he.storage.trans ?_⟩
      refine (Storage.grown_saveText e.storage p text).mono ?_
      rintro l rfl
      refine ⟨g, hg, ?_⟩
      rw [he.storage.place_eq]
      exact (Storage.mem_resultPlaces_iff ho).mpr ⟨p, hp, rfl⟩
  exact hstable.keeps_generateFile (List.mem_singleton_self file) d (.refl _ d)

/-- **Schema files up to the one that fails.** -/
theorem of_mapM_eq_error (ho : o.names.Apart)
    (h : (files.mapM (generateFile o root)).on d = (.error f, d')) :
    ∃ done file rest, files = done ++ file :: rest ∧
      Desk.Grown (d.IsResult o root (done ++ [file])) d d' ∧
      ∀ g ∈ done, g ≠ file → g.isSketch = true →
        d.HasOwnDir o root (done ++ [file]) g → d'.UpToDate o root g := by
  obtain ⟨done, file, rest, rs, d₁, rfl, hdone, hfails⟩ := exists_of_mapM_eq_error h
  obtain ⟨-, hgrown₁, hresults⟩ := of_mapM_eq_ok ho hdone
  have hgrown₂ := grown_generateFile ho root file d₁
  rw [hfails] at hgrown₂
  refine ⟨done, file, rest, rfl, ?_, ?_⟩
  · refine (hgrown₁.mono ?_).trans (hgrown₂.mono ?_)
    · rintro l ⟨g, hg, hl⟩
      exact ⟨g, List.mem_append_left _ hg, hl⟩
    · intro l hl
      obtain ⟨g, hg, hl⟩ := hgrown₁.isResult_iff.mp hl
      exact ⟨g, List.mem_append_right _ hg, hl⟩
  · intro g hg hne hsketch hown
    have hfirst : d₁.UpToDate o root g :=
      hresults g hg hsketch fun g' hg' => hown g' (List.mem_append_left _ hg')
    refine hfirst.grown ho hgrown₂ (Desk.not_isResult_of_isSketch ho hsketch) ?_
    -- What the failing file has written is in another directory.
    intro l hl hresult
    obtain ⟨g', hg', hl'⟩ := hgrown₁.isResult_iff.mp hresult
    obtain rfl := List.mem_singleton.mp hg'
    have hdirs := hown g' (List.mem_append_right _ hg') hne.symm
    rw [hgrown₁.settings, hgrown₁.storage.resultPlaces_eq] at hl
    exact Storage.not_mem_resultPlaces hdirs hl' hl

/-! ## Runs -/

/-- Without a policy for duplicates a schema file has no results. -/
theorem keeps_generateFile_of_unknown {settings : Settings} {s : Storage}
    (hpolicy : DuplicatePolicy.ofName? settings.duplicates = none) :
    Keeps (fun e => e.settings = settings ∧ e.storage = s)
      (generateFile o root file) := by
  unfold generateFile readSketch
  refine Keeps.bind (keeps_ask _) fun text => ?_
  rintro e ⟨rfl, rfl⟩
  rw [on_bind, on_tablesOf, hpolicy]
  exact ⟨rfl, rfl⟩

/-- **Without a policy for duplicates nothing is written.** -/
theorem storage_generate_of_unknown (o : Order)
    (hpolicy : DuplicatePolicy.ofName? d.settings.duplicates = none) :
    ((generate o).on d).2.storage = d.storage := by
  rcases generate_cases o d with ⟨f, hstop⟩ | ⟨path, top, files, node, -, -, hrun⟩
  · rw [hstop]
  · obtain ⟨printed, hsay⟩ :=
      exists_on_say_of_sayable (sayable_foundLine files.length d.columns)
    have hkeeps : Keeps (fun e => e.settings = d.settings ∧ e.storage = d.storage)
        (files.mapM (generateFile o top)) :=
      Keeps.mapM files fun g _ => keeps_generateFile_of_unknown hpolicy
    rw [hrun, writeAll, on_bind_of_ok hsay]
    exact (hkeeps { d with printed := printed } ⟨rfl, rfl⟩).2

/-- A run at a path where nothing is. -/
theorem generate_of_not_isThere
    (hpath : Path.expandHome? d.storage.home? o.path = some path)
    (hthere : d.storage.isThere path = .ok false) :
    (generate o).on d = (.error (.noSchema path), d) := by
  unfold generate
  rw [on_bind_of_ok (on_expandHome_of_some hpath), on_bind_of_ok (on_ask_of_ok hthere)]
  rfl

/-- A run that fails in a directory has failed at a schema file. -/
theorem of_generate_dir_eq_error (ho : o.names.Apart)
    (hpath : Path.expandHome? d.storage.home? o.path = some path)
    (hdir : d.storage.isDir path = .ok true)
    (h : (generate o).on d = (.error f, d')) :
    ∃ done file rest,
      ({} : Discovery).find d.storage path = .ok (done ++ file :: rest) ∧
      Desk.Grown (d.IsResult o (some path) (done ++ [file])) d d' ∧
      ∀ g ∈ done, g ≠ file → d.HasOwnDir o (some path) (done ++ [file]) g →
        d'.UpToDate o (some path) g := by
  have hnode := Storage.isDir_iff.mp hdir
  obtain ⟨files, hfiles⟩ := Discovery.exists_find {} hnode
  have hfinds := Desk.finds_of_dir hpath hnode hfiles
  obtain ⟨printed, hsay⟩ :=
    exists_on_say_of_sayable (sayable_foundLine files.length d.columns)
  rw [generate_of_finds hfinds hnode, writeAll, on_bind_of_ok hsay] at h
  obtain ⟨done, file, rest, rfl, hgrown, hdone⟩ := of_mapM_eq_error ho h
  refine ⟨done, file, rest, hfiles, ⟨hgrown.settings, hgrown.storage⟩, ?_⟩
  intro g hg hne hown
  exact hdone g hg hne
    (Discovery.isSketch_of_mem hnode hfiles (List.mem_append_left _ hg)) hown

/-- **A run that fails** in a directory has come to one of its schema files.  The
results of those in front of it are complete, as far as they have a directory of their
own.  No files are changed but their results and some of those of the file that the run
has failed at.  A run that finds nothing at its path, or has no policy for duplicates,
changes no file. -/
theorem failing_run (o : Order) (hnames : o.names = {}) (d : Desk)
    (hwf : d.storage.WellFormed) (path : Path)
    (hpath : Path.expandHome? d.storage.home? o.path = some path) :
    (∀ f d', d.storage.isDir path = .ok true → (generate o).on d = (.error f, d') →
      ∃ done file rest,
        ({} : Discovery).find d.storage path = .ok (done ++ file :: rest) ∧
        (∀ g ∈ done, d.HasOwnDir o (some path) (done ++ file :: rest) g →
          ∃ content texts,
            d.storage.tree.node? (d.storage.place g) = some (.file content) ∧
            d.settings.resultTexts? o.flags (Storage.sketchText content) = some texts ∧
            d'.storage.HoldsResults
              (o.names.inDir (o.dirOf d.settings (some path) g)) texts) ∧
        (∀ l, ¬ d.IsResult o (some path) (done ++ [file]) l → ∀ content,
          d'.storage.tree.node? l = some (.file content) ↔
            d.storage.tree.node? l = some (.file content)) ∧
        ∀ g ∈ done ++ file :: rest, ∀ content,
          d'.storage.tree.node? (d.storage.place g) = some (.file content) ↔
            d.storage.tree.node? (d.storage.place g) = some (.file content)) ∧
    (d.storage.isThere path = .ok false →
      (generate o).on d = (.error (.noSchema path), d)) ∧
    (DuplicatePolicy.ofName? d.settings.duplicates = none →
      ((generate o).on d).2.storage = d.storage) := by
  have ho : o.names.Apart := hnames ▸ ResultNames.apart_default
  refine ⟨?_, generate_of_not_isThere hpath, storage_generate_of_unknown o⟩
  intro f d' hdir h
  obtain ⟨done, file, rest, hfiles, hgrown, hdone⟩ :=
    of_generate_dir_eq_error ho hpath hdir h
  have hkept : ∀ g ∈ done ++ file :: rest, ∀ content,
      d'.storage.tree.node? (d.storage.place g) = some (.file content) ↔
        d.storage.tree.node? (d.storage.place g) = some (.file content) := by
    intro g hg
    have hsketch := Discovery.isSketch_of_mem (Storage.isDir_iff.mp hdir) hfiles hg
    exact hgrown.storage.tree.others _ (Desk.not_isResult_of_isSketch ho hsketch)
  refine ⟨done, file, rest, hfiles, ?_, hgrown.storage.tree.others, hkept⟩
  intro g hg hown
  have hne : g ≠ file := by
    rintro rfl
    have hnodup := nodup_of_find hwf hdir hfiles
    exact (List.nodup_append.mp hnodup).2.2 g hg g List.mem_cons_self rfl
  have hfront : d.HasOwnDir o (some path) (done ++ [file]) g := by
    intro g' hg'
    apply hown
    rw [List.mem_append, List.mem_singleton] at hg'
    rcases hg' with hg' | rfl
    · exact List.mem_append_left _ hg'
    · exact List.mem_append_right _ List.mem_cons_self
  obtain ⟨text, texts, hread, htexts, hholds⟩ := hdone g hg hne hfront
  obtain ⟨content, hfind, rfl⟩ := Storage.readSketch_eq hread
  have hnode := (Storage.find_eq_some hfind).2
  rw [hgrown.storage.place_eq] at hnode
  rw [hgrown.settings] at htexts hholds
  have hbefore := (hkept g (List.mem_append_left _ hg) content).mp hnode
  exact ⟨content, texts, hbefore, htexts, hholds⟩

/-- Two schema files.  Where the preview of the second one goes, there is a directory. -/
def blocked : Desk where
  storage.tree := ⟨[(["w"], .dir),
    (["w", "a.d2"], .file (Text.encode "A: {shape: sql_table; x: int}".toList)),
    (["w", "b.d2"], .file []), (["out"], .dir), (["out", "b"], .dir),
    (["out", "b", "schema_preview.md"], .dir)]⟩

def blockedOrder : Order where
  path := .ofString "w"

def blockedFiles : List Path :=
  [.ofString "w/a.d2", .ofString "w/b.d2"]

theorem finds_blocked : blocked.Finds blockedOrder (.ofString "w")
    (some (.ofString "w")) blockedFiles :=
  Desk.finds_of_pairwise (by decide) (by decide) (by decide) (by decide)

/-- The run fails behind the script of the second file. -/
theorem generate_blocked : ∃ f d', (generate blockedOrder).on blocked = (.error f, d') ∧
    (d'.storage.tree.content? ["out", "b", "schema.sql"]).isSome := by
  have hfind : blocked.storage.find (.ofString "w") = .ok (some .dir) := by decide
  have hrun : ((writeAll blockedOrder (some (.ofString "w")) blockedFiles).on
        blocked).1.toOption.isNone ∧
      (((writeAll blockedOrder (some (.ofString "w")) blockedFiles).on
        blocked).2.storage.tree.content? ["out", "b", "schema.sql"]).isSome := by
    decide +kernel
  rw [generate_of_finds finds_blocked hfind]
  generalize (writeAll blockedOrder (some (.ofString "w")) blockedFiles).on
    blocked = run at hrun ⊢
  obtain ⟨result, d'⟩ := run
  cases result with
  | error f => exact ⟨f, d', rfl, hrun.2⟩
  | ok rs => cases hrun.1

/-- The results of the first file are complete. -/
theorem failing_run_of_blocked :
    ∃ f d', (generate blockedOrder).on blocked = (.error f, d') ∧
      d'.storage.Holds (.ofString "out/a/schema.sql") "CREATE TABLE A (\n  x INT\n);\n" ∧
      d'.storage.tree.node? ["w", "b.d2"] = some (.file []) := by
  obtain ⟨f, d', hrun, hscript⟩ := generate_blocked
  obtain ⟨hfails, -, -⟩ := failing_run blockedOrder rfl blocked (by decide)
    (.ofString "w") (by decide)
  obtain ⟨done, file, rest, hfiles, hdone, hothers, hkept⟩ := hfails f d' (by decide) hrun
  have hsplit : done ++ file :: rest = blockedFiles :=
    Except.ok.inj (hfiles.symm.trans finds_blocked.finds)
  have hlast : (Path.ofString "w/b.d2") ∈ done ++ file :: rest := by
    rw [hsplit]
    decide
  refine ⟨f, d', hrun, ?_, (hkept _ hlast []).mpr (by decide)⟩
  have hfirst : .ofString "w/a.d2" ∈ done := by
    cases done with
    | cons g gs =>
        rw [(List.cons.inj hsplit).1]
        exact List.mem_cons_self
    | nil =>
        -- Then nothing would have been written for the second file.
        obtain rfl := (List.cons.inj hsplit).1
        obtain ⟨content, hcontent⟩ := FileTree.isSome_content?_iff.mp hscript
        rw [hothers _ (by unfold Desk.IsResult; decide)] at hcontent
        cases hcontent
  rw [hsplit] at hdone
  obtain ⟨content, texts, hcontent, htexts, hholds⟩ := hdone _ hfirst (by decide)
  obtain rfl : Text.encode "A: {shape: sql_table; x: int}".toList = content :=
    Node.file.inj (Option.some.inj hcontent)
  have hscripts : texts.script = "CREATE TABLE A (\n  x INT\n);\n" := by
    rw [← Option.some.inj htexts]
    decide +kernel
  rw [← hscripts]
  exact hholds.script

end Work

end TableSketch
