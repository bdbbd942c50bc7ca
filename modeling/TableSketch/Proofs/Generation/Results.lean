import TableSketch.Proofs.Generation.Parts

/-!
# What a run leaves behind

Results are written into a directory of their own for each schema file, under
names that are told apart by their last parts.  So it is known which places a
run can change (`Storage.resultPlaces`), and no schema file is at any of them,
because no result is named like a sketch.

When a run succeeds, the results of a schema file are the ones of what is in
that file, provided that no other schema file has the same directory for its
results (`Work.of_generate_eq_ok`).  It is an induction on the files.  The
results of the first one are written and then left alone, since those of the
others go elsewhere; and its text is the same afterwards as when it was read.

## Main results

* `Work.of_generateFile_eq_ok` — the results of one schema file.
* `Work.of_mapM_eq_ok` — those of several, one after the other.
* `Work.of_generate_eq_ok` — a run on a directory.
-/

namespace TableSketch

/-! ## Names of results -/

namespace ResultNames

/-- All names. -/
def all (n : ResultNames) : List String :=
  [n.script, n.preview, n.prompt]

theorem script_mem (n : ResultNames) : n.script ∈ n.all := by
  simp [all]

theorem preview_mem (n : ResultNames) : n.preview ∈ n.all := by
  simp [all]

theorem prompt_mem (n : ResultNames) : n.prompt ∈ n.all := by
  simp [all]

/-- Names that keep results apart from each other and from schema files. -/
structure Apart (n : ResultNames) : Prop where
  isName : ∀ name ∈ n.all, Path.IsName name
  distinct : n.all.Nodup
  noSketch : ∀ name ∈ n.all, (Path.ofString name).isSketch = false

theorem apart_default : ({} : ResultNames).Apart := by
  refine ⟨?_, by decide, by decide⟩
  intro name hname
  have hcases : name = "schema.sql" ∨ name = "schema_preview.md" ∨
      name = "prompt.md" := by simpa [all] using hname
  rcases hcases with rfl | rfl | rfl
  · exact ⟨by decide, by decide⟩
  · exact ⟨by decide, by decide⟩
  · exact ⟨by decide, by decide⟩

end ResultNames

/-- The places of the results in a directory. -/
def Storage.resultPlaces (s : Storage) (n : ResultNames) (dir : Path) :
    List Location :=
  n.all.map fun name => s.place dir ++ [name]

namespace Storage

variable {s s' : Storage} {n : ResultNames} {dir dir' : Path} {l : Location}

theorem place_script (h : n.Apart) (s : Storage) (dir : Path) :
    s.place (n.inDir dir).script = s.place dir ++ [n.script] :=
  place_child (h.isName _ n.script_mem) s dir

theorem place_preview (h : n.Apart) (s : Storage) (dir : Path) :
    s.place (n.inDir dir).preview = s.place dir ++ [n.preview] :=
  place_child (h.isName _ n.preview_mem) s dir

theorem place_prompt (h : n.Apart) (s : Storage) (dir : Path) :
    s.place (n.inDir dir).prompt = s.place dir ++ [n.prompt] :=
  place_child (h.isName _ n.prompt_mem) s dir

/-- Results in one directory are at different places. -/
theorem place_ne_of_apart (h : n.Apart) (s : Storage) (dir : Path) :
    s.place (n.inDir dir).script ≠ s.place (n.inDir dir).preview ∧
      s.place (n.inDir dir).script ≠ s.place (n.inDir dir).prompt ∧
      s.place (n.inDir dir).preview ≠ s.place (n.inDir dir).prompt := by
  have hdistinct := h.distinct
  simp only [ResultNames.all, List.nodup_cons, List.mem_cons, not_or] at hdistinct
  obtain ⟨⟨hsp, hsq, -⟩, ⟨hpq, -⟩, -⟩ := hdistinct
  have hne : ∀ {name name' : String}, name ≠ name' →
      s.place dir ++ [name] ≠ s.place dir ++ [name'] := by
    intro name name' hnames heq
    exact hnames (List.singleton_inj.mp (List.append_inj_right' heq rfl))
  rw [place_script h, place_preview h, place_prompt h]
  exact ⟨hne hsp, hne hsq, hne hpq⟩

theorem Changed.resultPlaces_eq {L : Location → Prop} (h : Changed L s s')
    (n : ResultNames) (dir : Path) :
    s'.resultPlaces n dir = s.resultPlaces n dir := by
  rw [resultPlaces, resultPlaces, h.place_eq]

theorem Grown.resultPlaces_eq {L : Location → Prop} (h : Grown L s s')
    (n : ResultNames) (dir : Path) :
    s'.resultPlaces n dir = s.resultPlaces n dir :=
  h.changed.resultPlaces_eq n dir

/-- Results in different directories are at different places. -/
theorem not_mem_resultPlaces (h : s.place dir ≠ s.place dir')
    (hl : l ∈ s.resultPlaces n dir) : l ∉ s.resultPlaces n dir' := by
  intro hl'
  obtain ⟨name, -, rfl⟩ := List.mem_map.mp hl
  obtain ⟨name', -, heq⟩ := List.mem_map.mp hl'
  exact h (List.append_inj_left' heq rfl).symm

/-- No sketch is where a result is. -/
theorem place_not_mem_resultPlaces (h : n.Apart) {p : Path}
    (hp : p.isSketch = true) (s : Storage) (dir : Path) :
    s.place p ∉ s.resultPlaces n dir := by
  intro hmem
  obtain ⟨name, hname, heq⟩ := List.mem_map.mp hmem
  exact place_ne_child hp (h.isName name hname) (h.noSketch name hname) s dir
    heq.symm

theorem isSketch_of_mem_resultPlaces (h : n.Apart)
    (hl : l ∈ s.resultPlaces n dir) :
    (⟨.relative, l⟩ : Path).isSketch = false := by
  obtain ⟨name, hname, rfl⟩ := List.mem_map.mp hl
  rw [← h.noSketch name hname, (h.isName name hname).single]
  refine Path.isSketch_congr ?_
  exact Path.name_concat ⟨.relative, s.place dir⟩ name

end Storage

/-! ## Results that are up to date -/

/-- A file holds a text and nothing else. -/
def Storage.Holds (s : Storage) (p : Path) (text : String) : Prop :=
  s.find p = .ok (some (.file (Text.encode text.toList)))

/-- The three files of results hold their texts. -/
structure Storage.HoldsResults (s : Storage) (r : Results)
    (texts : ResultTexts) : Prop where
  script : s.Holds r.script texts.script
  preview : s.Holds r.preview texts.preview
  prompt : s.Holds r.prompt texts.prompt

/-- The texts that belong to a sketch, if the policy for duplicates is one. -/
def Settings.resultTexts? (s : Settings) (flags : Flags) (text : String) :
    Option ResultTexts :=
  (DuplicatePolicy.ofName? s.duplicates).map fun policy =>
    ResultTexts.ofTables (resolveDuplicates policy (tables s.scanMode text))
      flags s.dimension

/-- The results of a schema file are there, and they are those of what is in
the file now. -/
def Desk.UpToDate (d : Desk) (o : Order) (root : Option Path) (file : Path) :
    Prop :=
  ∃ text texts, d.storage.readSketch file = .ok text ∧
    d.settings.resultTexts? o.flags text = some texts ∧
    d.storage.HoldsResults (o.names.inDir (o.dirOf d.settings root file)) texts

/-- The place is one of the results of some schema file. -/
def Desk.IsResult (d : Desk) (o : Order) (root : Option Path)
    (files : List Path) (l : Location) : Prop :=
  ∃ f ∈ files, l ∈ d.storage.resultPlaces o.names (o.dirOf d.settings root f)

/-- No other schema file has the same directory for its results. -/
def Desk.HasOwnDir (d : Desk) (o : Order) (root : Option Path)
    (files : List Path) (file : Path) : Prop :=
  ∀ f ∈ files, f ≠ file →
    d.storage.place (o.dirOf d.settings root f) ≠
      d.storage.place (o.dirOf d.settings root file)

instance Desk.decidableHasOwnDir (d : Desk) (o : Order) (root : Option Path)
    (files : List Path) (file : Path) : Decidable (d.HasOwnDir o root files file) :=
  inferInstanceAs (Decidable (∀ f ∈ files, _))

section UpToDate

variable {L : Location → Prop} {s s' : Storage} {d d' : Desk} {o : Order}
variable {root : Option Path} {file : Path} {files : List Path}
variable {n : ResultNames} {dir : Path} {texts : ResultTexts}

theorem Storage.HoldsResults.grown (h : s.HoldsResults (n.inDir dir) texts)
    (hn : n.Apart) (hgrown : Storage.Grown L s s')
    (hplaces : ∀ l ∈ s.resultPlaces n dir, ¬ L l) :
    s'.HoldsResults (n.inDir dir) texts := by
  have hkept : ∀ name ∈ n.all, ¬ L (s.place dir ++ [name]) := by
    intro name hname
    exact hplaces _ (List.mem_map.mpr ⟨name, hname, rfl⟩)
  refine ⟨hgrown.find_file h.script ?_, hgrown.find_file h.preview ?_,
    hgrown.find_file h.prompt ?_⟩
  · rw [Storage.place_script hn]
    exact hkept _ n.script_mem
  · rw [Storage.place_preview hn]
    exact hkept _ n.preview_mem
  · rw [Storage.place_prompt hn]
    exact hkept _ n.prompt_mem

/-- Three texts that are saved one after the other are there, because their
names differ. -/
theorem Storage.Saves.holdsResults (hn : n.Apart)
    (h : s.Saves (n.inDir dir) texts s') :
    Storage.Grown (· ∈ s.resultPlaces n dir) s s' ∧
      s'.HoldsResults (n.inDir dir) texts := by
  obtain ⟨s₁, s₂, hsave₁, hsave₂, hsave₃⟩ := h
  obtain ⟨hsp, hsq, hpq⟩ := Storage.place_ne_of_apart hn s dir
  have hgrown₁ := Storage.grown_saveText s (n.inDir dir).script texts.script
  have hgrown₂ := Storage.grown_saveText s₁ (n.inDir dir).preview texts.preview
  have hgrown₃ := Storage.grown_saveText s₂ (n.inDir dir).prompt texts.prompt
  rw [hsave₁] at hgrown₁
  rw [hsave₂, hgrown₁.place_eq] at hgrown₂
  rw [hsave₃, hgrown₂.place_eq, hgrown₁.place_eq] at hgrown₃
  have hscript := Storage.find_saveText hsave₁
  have hpreview := Storage.find_saveText hsave₂
  have hprompt := Storage.find_saveText hsave₃
  refine ⟨?_, ?_, ?_, hprompt⟩
  · refine (hgrown₁.mono ?_).trans ((hgrown₂.mono ?_).trans (hgrown₃.mono ?_))
    · rintro l rfl
      rw [Storage.place_script hn]
      exact List.mem_map.mpr ⟨_, n.script_mem, rfl⟩
    · rintro l rfl
      rw [Storage.place_preview hn]
      exact List.mem_map.mpr ⟨_, n.preview_mem, rfl⟩
    · rintro l rfl
      rw [Storage.place_prompt hn]
      exact List.mem_map.mpr ⟨_, n.prompt_mem, rfl⟩
  · refine hgrown₃.find_file (hgrown₂.find_file hscript ?_) ?_
    · rw [hgrown₁.place_eq]
      exact hsp
    · rw [hgrown₂.place_eq, hgrown₁.place_eq]
      exact hsq
  · refine hgrown₃.find_file hpreview ?_
    rw [hgrown₂.place_eq, hgrown₁.place_eq]
    exact hpq

/-- Results stay up to date while files are changed elsewhere. -/
theorem Desk.UpToDate.grown (h : d.UpToDate o root file)
    (ho : o.names.Apart) (hgrown : Desk.Grown L d d')
    (hfile : ¬ L (d.storage.place file))
    (hplaces : ∀ l ∈ d.storage.resultPlaces o.names
      (o.dirOf d.settings root file), ¬ L l) :
    d'.UpToDate o root file := by
  obtain ⟨text, texts, hread, htexts, hholds⟩ := h
  refine ⟨text, texts, hgrown.storage.readSketch hread hfile, ?_, ?_⟩
  · rw [hgrown.settings, htexts]
  · rw [hgrown.settings]
    exact hholds.grown ho hgrown.storage hplaces

theorem Desk.Grown.isResult_iff (h : Desk.Grown L d d') {l : Location} :
    d'.IsResult o root files l ↔ d.IsResult o root files l := by
  simp only [Desk.IsResult, h.settings, h.storage.resultPlaces_eq]

theorem Desk.Grown.hasOwnDir_iff (h : Desk.Grown L d d') :
    d'.HasOwnDir o root files file ↔ d.HasOwnDir o root files file := by
  simp only [Desk.HasOwnDir, h.settings, h.storage.place_eq]

theorem Desk.not_isResult_of_isSketch (ho : o.names.Apart) {p : Path}
    (hp : p.isSketch = true) :
    ¬ d.IsResult o root files (d.storage.place p) := by
  rintro ⟨f, -, hmem⟩
  exact Storage.place_not_mem_resultPlaces ho hp _ _ hmem

theorem Desk.isSketch_of_isResult (ho : o.names.Apart) {l : Location}
    (hl : d.IsResult o root files l) :
    (⟨.relative, l⟩ : Path).isSketch = false := by
  obtain ⟨f, -, hmem⟩ := hl
  exact Storage.isSketch_of_mem_resultPlaces ho hmem

end UpToDate

/-! ## Runs -/

namespace Work

variable {d d' d₁ d₂ d₃ : Desk} {o : Order} {root : Option Path} {file : Path}
variable {files : List Path} {n : ResultNames} {dir : Path}
variable {texts : ResultTexts}

/-- **The results of one schema file.** -/
theorem of_generateFile_eq_ok (ho : o.names.Apart) {r : Results}
    (h : (generateFile o root file).on d = (.ok r, d')) :
    r = o.names.inDir (o.dirOf d.settings root file) ∧
      Desk.Grown (d.IsResult o root [file]) d d' ∧
      (file.isSketch = true → d'.UpToDate o root file) := by
  obtain ⟨ts, hparts, hr, hsettings, -⟩ := exists_parts h
  obtain ⟨text, hread, policy, hpolicy, rfl⟩ := hparts.read
  obtain ⟨hsaved, hholds⟩ := hparts.saved.holdsResults ho
  have hgrown : Desk.Grown (d.IsResult o root [file]) d d' := by
    refine ⟨hsettings, hsaved.mono ?_⟩
    intro l hl
    exact ⟨file, List.mem_singleton_self file, hl⟩
  refine ⟨hr, hgrown, ?_⟩
  intro hsketch
  have hkept : ¬ d.IsResult o root [file] (d.storage.place file) :=
    Desk.not_isResult_of_isSketch ho hsketch
  refine ⟨text, ResultTexts.ofTables
    (resolveDuplicates policy (tables d.settings.scanMode text)) o.flags
    d.settings.dimension, hgrown.storage.readSketch hread hkept, ?_, ?_⟩
  · rw [hsettings, Settings.resultTexts?, hpolicy]
    rfl
  · rw [hsettings]
    exact hholds

/-- **The results of schema files**, one after the other. -/
theorem of_mapM_eq_ok (ho : o.names.Apart) {rs : List Results}
    (h : (files.mapM (generateFile o root)).on d = (.ok rs, d')) :
    rs = (files.map fun f => o.names.inDir (o.dirOf d.settings root f)) ∧
      Desk.Grown (d.IsResult o root files) d d' ∧
      ∀ f ∈ files, f.isSketch = true → d.HasOwnDir o root files f →
        d'.UpToDate o root f := by
  induction files generalizing d rs with
  | nil =>
      cases h
      exact ⟨rfl, .refl _ _, fun f hf => absurd hf List.not_mem_nil⟩
  | cons g gs ih =>
      rw [List.mapM_cons] at h
      obtain ⟨r, d₁, hfirst, h⟩ := exists_of_on_bind h
      obtain ⟨rs', d₂, hrest, h⟩ := exists_of_on_bind h
      cases h
      obtain ⟨hr, hgrown₁, hdone⟩ := of_generateFile_eq_ok ho hfirst
      obtain ⟨hrs, hgrown₂, hothers⟩ := ih hrest
      have hgrown : Desk.Grown (d.IsResult o root (g :: gs)) d d' := by
        refine (hgrown₁.mono ?_).trans (hgrown₂.mono ?_)
        · rintro l ⟨f, hf, hl⟩
          rw [List.mem_singleton.mp hf] at hl
          exact ⟨g, List.mem_cons_self, hl⟩
        · intro l hl
          obtain ⟨f, hf, hl⟩ := hgrown₁.isResult_iff.mp hl
          exact ⟨f, List.mem_cons_of_mem g hf, hl⟩
      refine ⟨?_, hgrown, ?_⟩
      · rw [hr, hrs, hgrown₁.settings]
        rfl
      intro f hf hsketch hown
      by_cases hlater : f ∈ gs
      · refine hothers f hlater hsketch (hgrown₁.hasOwnDir_iff.mpr ?_)
        intro f' hf'
        exact hown f' (List.mem_cons_of_mem g hf')
      · -- The results of the others go elsewhere.
        obtain rfl : f = g := by
          rcases List.mem_cons.mp hf with heq | hmem
          · exact heq
          · exact absurd hmem hlater
        refine (hdone hsketch).grown ho hgrown₂
          (Desk.not_isResult_of_isSketch ho hsketch) ?_
        intro l hl hresult
        obtain ⟨f', hf', hl'⟩ := hgrown₁.isResult_iff.mp hresult
        have hne : f' ≠ f := by
          rintro rfl
          exact hlater hf'
        have hdirs := hown f' (List.mem_cons_of_mem f hf') hne
        rw [hgrown₁.settings, hgrown₁.storage.resultPlaces_eq] at hl
        exact Storage.not_mem_resultPlaces hdirs hl' hl

/-- **A run that succeeds** on what is at a path. -/
theorem exists_of_generate_eq_ok (ho : o.names.Apart) {rs : List Results}
    (h : (generate o).on d = (.ok rs, d')) :
    ∃ path node files top, d.Finds o path top files ∧
      d.storage.find path = .ok (some node) ∧
      (node = .dir → top = some path) ∧
      rs = (files.map fun f => o.names.inDir (o.dirOf d.settings top f)) ∧
      Desk.Grown (d.IsResult o top files) d d' ∧
      ∀ f ∈ files, f.isSketch = true → d.HasOwnDir o top files f →
        d'.UpToDate o top f := by
  obtain ⟨path, top, files, node, hfinds, hnode, hwrite⟩ := of_generate_eq_ok h
  obtain ⟨-, printed, hmap⟩ := of_writeAll_eq_ok hwrite
  obtain ⟨hrs, hgrown, hdone⟩ := of_mapM_eq_ok ho hmap
  have htop : node = .dir → top = some path := by
    rintro rfl
    obtain ⟨single, hsingle, rfl⟩ := hfinds.searches
    rw [Storage.isFile_of_dir hnode] at hsingle
    obtain rfl := Except.ok.inj hsingle
    rfl
  exact ⟨path, node, files, top, hfinds, hnode, htop, hrs,
    ⟨hgrown.settings, hgrown.storage⟩, hdone⟩

/-- **What a run on a directory leaves behind**, as seen from the end. -/
theorem upToDate_of_generate (ho : o.names.Apart) {rs : List Results}
    (h : (generate o).on d = (.ok rs, d')) {path f : Path}
    (hpath : Path.expandHome? d'.storage.home? o.path = some path)
    (hdir : d'.storage.isDir path = .ok true)
    (hfiles : ({} : Discovery).find d'.storage path = .ok files)
    (hf : f ∈ files) (hown : d'.HasOwnDir o (some path) files f) :
    d'.UpToDate o (some path) f := by
  obtain ⟨path', node, files', top, hfinds, hnode, htop, -, hgrown, hdone⟩ :=
    exists_of_generate_eq_ok ho h
  have hfiles' := hfinds.finds
  rw [hgrown.storage.home?_eq, hfinds.expands] at hpath
  obtain rfl := Option.some.inj hpath
  have hdir' := Storage.isDir_iff.mp hdir
  obtain rfl := hgrown.storage.find_dir_of_some hnode hdir'
  obtain rfl := htop rfl
  have hsame := Discovery.find_of_grown hgrown.storage hnode
    fun l hl => Desk.isSketch_of_isResult ho hl
  rw [hsame, hfiles'] at hfiles
  obtain rfl := Except.ok.inj hfiles
  have hsketch := Discovery.isSketch_of_mem hnode hfiles' hf
  exact hdone f hf hsketch (hgrown.hasOwnDir_iff.mp hown)

end Work

end TableSketch
