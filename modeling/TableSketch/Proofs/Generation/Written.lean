import Mathlib.Data.List.Nodup
import TableSketch.Proofs.Generation.Keeping

/-!
# What a run writes

A run that succeeds writes three files for each schema file, one schema file after
the other, and where two of them have the same directory for their results the later
one stays.  What is to be in these files is known before the run begins: it is read
off the schema files, and a run leaves those alone.  So the files that are there
after a run are the written ones, the last one at each place, and for the rest what
was there before (`Work.content?_generate`).

## Main results

* `Desk.written?` — what a run writes at a place.
* `Work.content?_generateFile` — the files of one schema file.
* `Work.content?_generate` — the files after a run.
-/

namespace TableSketch

/-! ## Writing files one after the other -/

/-- Files with different places that are there, all others being as before. -/
theorem FileTree.content?_of_written {t t' : FileTree}
    {es : List (Location × List UInt8)} (hdistinct : (es.map Prod.fst).Nodup)
    (hthere : ∀ e ∈ es, t'.content? e.1 = some e.2)
    (hothers : ∀ l, l ∉ es.map Prod.fst → t'.content? l = t.content? l)
    (l : Location) :
    t'.content? l = (es.reverse.lookup l).or (t.content? l) := by
  by_cases hl : l ∈ es.map Prod.fst
  · obtain ⟨e, he, rfl⟩ := List.mem_map.mp hl
    have hdistinct' : (es.reverse.map Prod.fst).Nodup := by
      rw [List.map_reverse, List.nodup_reverse]
      exact hdistinct
    rw [lookup_of_mem hdistinct' (List.mem_reverse.mpr he), hthere e he]
    rfl
  · have hnone : es.reverse.lookup l = none := by
      rw [List.lookup_eq_none_iff]
      intro e he
      have hne : l ≠ e.1 := by
        rintro rfl
        exact hl (List.mem_map_of_mem (List.mem_reverse.mp he))
      simpa using hne
    rw [hothers l hl, hnone]
    rfl

/-! ## Files of results -/

/-- The files of results in a directory, with what is to be in them. -/
def Storage.resultFiles (s : Storage) (n : ResultNames) (dir : Path)
    (texts : ResultTexts) : List (Location × List UInt8) :=
  [(s.place dir ++ [n.script], Text.encode texts.script.toList),
    (s.place dir ++ [n.preview], Text.encode texts.preview.toList),
    (s.place dir ++ [n.prompt], Text.encode texts.prompt.toList)]

/-- The texts that belong to what is in a schema file. -/
def Desk.texts? (d : Desk) (o : Order) (file : Path) : Option ResultTexts :=
  (d.storage.tree.content? (d.storage.place file)).bind fun content =>
    d.settings.resultTexts? o.flags (Storage.sketchText content)

/-- The files of results of a schema file, with what is to be in them. -/
def Desk.resultFiles (d : Desk) (o : Order) (top : Option Path) (file : Path) :
    List (Location × List UInt8) :=
  match d.texts? o file with
  | none => []
  | some texts =>
    d.storage.resultFiles o.names (o.dirOf d.settings top file) texts

/-- **What a run writes** at a place. -/
def Desk.written? (d : Desk) (o : Order) (top : Option Path) (files : List Path)
    (l : Location) : Option (List UInt8) :=
  (files.flatMap (d.resultFiles o top)).reverse.lookup l

section Files

variable {L : Location → Prop} {s : Storage} {n : ResultNames} {dir : Path}
variable {texts : ResultTexts} {d d' : Desk} {o : Order} {top : Option Path}
variable {file : Path} {files : List Path} {l : Location}

theorem Storage.map_fst_resultFiles (s : Storage) (n : ResultNames) (dir : Path)
    (texts : ResultTexts) :
    (s.resultFiles n dir texts).map Prod.fst = s.resultPlaces n dir :=
  rfl

/-- The results in one directory are different files. -/
theorem Storage.nodup_resultPlaces (hn : n.Apart) (s : Storage) (dir : Path) :
    (s.resultPlaces n dir).Nodup := by
  unfold Storage.resultPlaces
  apply List.Pairwise.map _ _ hn.distinct
  intro name name' hne heq
  exact hne (List.singleton_inj.mp (List.append_inj_right' heq rfl))

/-- Results that are there. -/
theorem Storage.HoldsResults.content? (hn : n.Apart)
    (h : s.HoldsResults (n.inDir dir) texts) :
    ∀ e ∈ s.resultFiles n dir texts, s.tree.content? e.1 = some e.2 := by
  have hfile : ∀ {p text}, s.Holds p text →
      s.tree.content? (s.place p) = some (Text.encode text.toList) :=
    fun hholds => FileTree.content?_eq_some_iff.mpr (find_eq_some hholds).2
  have hscript := hfile h.script
  have hpreview := hfile h.preview
  have hprompt := hfile h.prompt
  rw [Storage.place_script hn] at hscript
  rw [Storage.place_preview hn] at hpreview
  rw [Storage.place_prompt hn] at hprompt
  intro e he
  simp only [Storage.resultFiles, List.mem_cons, List.not_mem_nil, or_false] at he
  rcases he with rfl | rfl | rfl
  · exact hscript
  · exact hpreview
  · exact hprompt

/-- What is to be written does not change where no schema file does. -/
theorem Desk.texts?_eq (hsettings : d'.settings = d.settings)
    (h : d.storage.Changed L d'.storage) (hfile : ¬ L (d.storage.place file)) :
    d'.texts? o file = d.texts? o file := by
  unfold Desk.texts?
  rw [hsettings, h.place_eq, h.others _ hfile]

theorem Desk.resultFiles_eq (hsettings : d'.settings = d.settings)
    (h : d.storage.Changed L d'.storage) (hfile : ¬ L (d.storage.place file)) :
    d'.resultFiles o top file = d.resultFiles o top file := by
  unfold Desk.resultFiles
  rw [Desk.texts?_eq hsettings h hfile]
  split
  · rfl
  · unfold Storage.resultFiles
    rw [hsettings, h.place_eq]

theorem Desk.written?_eq (hsettings : d'.settings = d.settings)
    (h : d.storage.Changed L d'.storage)
    (hfiles : ∀ f ∈ files, ¬ L (d.storage.place f)) (l : Location) :
    d'.written? o top files l = d.written? o top files l := by
  unfold Desk.written?
  rw [List.flatMap_congr fun f hf => Desk.resultFiles_eq hsettings h (hfiles f hf)]

theorem Desk.written?_cons (d : Desk) (o : Order) (top : Option Path)
    (file : Path) (files : List Path) (l : Location) :
    d.written? o top (file :: files) l =
      (d.written? o top files l).or ((d.resultFiles o top file).reverse.lookup l) := by
  unfold Desk.written?
  rw [List.flatMap_cons, List.reverse_append, List.lookup_append]

/-- Something is written where results are, if there are any. -/
theorem Desk.isSome_written?_iff (htexts : ∀ f ∈ files, (d.texts? o f).isSome = true) :
    (d.written? o top files l).isSome = true ↔ d.IsResult o top files l := by
  have hplaces : ∀ f ∈ files, (d.resultFiles o top f).map Prod.fst =
      d.storage.resultPlaces o.names (o.dirOf d.settings top f) := by
    intro f hf
    obtain ⟨texts, ht⟩ := Option.isSome_iff_exists.mp (htexts f hf)
    rw [Desk.resultFiles, ht]
    rfl
  unfold Desk.written?
  rw [Option.isSome_iff_ne_none, Ne, List.lookup_eq_none_iff]
  constructor
  · intro hkeys
    by_contra hnone
    apply hkeys
    intro e he
    obtain ⟨f, hf, he⟩ := List.mem_flatMap.mp (List.mem_reverse.mp he)
    have hne : l ≠ e.1 := by
      rintro rfl
      apply hnone
      refine ⟨f, hf, ?_⟩
      rw [← hplaces f hf]
      exact List.mem_map_of_mem he
    simpa using hne
  · rintro ⟨f, hf, hl⟩ hkeys
    rw [← hplaces f hf] at hl
    obtain ⟨e, he, rfl⟩ := List.mem_map.mp hl
    have hne := hkeys e (List.mem_reverse.mpr (List.mem_flatMap.mpr ⟨f, hf, he⟩))
    simp at hne

end Files

/-! ## Runs -/

namespace Work

variable {d d' : Desk} {o : Order} {top : Option Path} {file : Path}
variable {files : List Path}

/-- **The files of one schema file.** -/
theorem content?_generateFile (ho : o.names.Apart) {r : Results}
    (h : (generateFile o top file).on d = (.ok r, d'))
    (hsketch : file.isSketch = true) :
    (d.texts? o file).isSome = true ∧
      ∀ l, d'.storage.tree.content? l =
        ((d.resultFiles o top file).reverse.lookup l).or
          (d.storage.tree.content? l) := by
  obtain ⟨-, hgrown, hdone⟩ := of_generateFile_eq_ok ho h
  obtain ⟨text, texts, hread, htexts, hholds⟩ := hdone hsketch
  obtain ⟨content, hfind, rfl⟩ := Storage.readSketch_eq hread
  have hkept : ¬ d.IsResult o top [file] (d.storage.place file) :=
    Desk.not_isResult_of_isSketch ho hsketch
  have hcontent : d'.storage.tree.content? (d'.storage.place file) =
      some content :=
    FileTree.content?_eq_some_iff.mpr (Storage.find_eq_some hfind).2
  have hsame : d'.texts? o file = d.texts? o file :=
    Desk.texts?_eq hgrown.settings hgrown.storage.changed hkept
  have htexts' : d'.texts? o file = some texts := by
    rw [Desk.texts?, hcontent]
    exact htexts
  have hfiles : d.resultFiles o top file =
      d.storage.resultFiles o.names (o.dirOf d.settings top file) texts := by
    rw [Desk.resultFiles, ← hsame, htexts']
  constructor
  · rw [← hsame, htexts']
    rfl
  · rw [hfiles]
    apply FileTree.content?_of_written
    · rw [Storage.map_fst_resultFiles]
      exact Storage.nodup_resultPlaces ho _ _
    · intro e he
      apply hholds.content? ho
      unfold Storage.resultFiles at he ⊢
      rw [hgrown.settings, hgrown.storage.place_eq]
      exact he
    · intro l hl
      apply hgrown.storage.tree.content?_eq
      rintro ⟨f, hf, hmem⟩
      rw [List.mem_singleton.mp hf] at hmem
      exact hl hmem

/-- **The files of schema files**, one after the other. -/
theorem content?_mapM (ho : o.names.Apart) {rs : List Results}
    (h : (files.mapM (generateFile o top)).on d = (.ok rs, d'))
    (hsketch : ∀ f ∈ files, f.isSketch = true) :
    (∀ f ∈ files, (d.texts? o f).isSome = true) ∧
      ∀ l, d'.storage.tree.content? l =
        (d.written? o top files l).or (d.storage.tree.content? l) := by
  induction files generalizing d rs with
  | nil =>
      cases h
      exact ⟨fun f hf => absurd hf List.not_mem_nil, fun l => rfl⟩
  | cons g gs ih =>
      rw [List.mapM_cons] at h
      obtain ⟨r, d₁, hfirst, h⟩ := exists_of_on_bind h
      obtain ⟨rs', d₂, hrest, h⟩ := exists_of_on_bind h
      cases h
      have hg : g.isSketch = true := hsketch g List.mem_cons_self
      have hgs : ∀ f ∈ gs, f.isSketch = true :=
        fun f hf => hsketch f (List.mem_cons_of_mem g hf)
      obtain ⟨hthere, hwritten⟩ := content?_generateFile ho hfirst hg
      obtain ⟨hthere', hwritten'⟩ := ih hrest hgs
      -- The schema files that follow are as they were before the first one.
      have hgrown := (of_generateFile_eq_ok ho hfirst).2.1
      have hkept : ∀ f ∈ gs, ¬ d.IsResult o top [g] (d.storage.place f) :=
        fun f hf => Desk.not_isResult_of_isSketch ho (hgs f hf)
      have hsame : ∀ f ∈ gs, d₁.texts? o f = d.texts? o f := fun f hf =>
        Desk.texts?_eq hgrown.settings hgrown.storage.changed (hkept f hf)
      constructor
      · intro f hf
        rcases List.mem_cons.mp hf with rfl | hf
        · exact hthere
        · rw [← hsame f hf]
          exact hthere' f hf
      · intro l
        rw [hwritten', hwritten, Desk.written?_cons, Option.or_assoc,
          Desk.written?_eq hgrown.settings hgrown.storage.changed hkept]

/-- **The files after a run** that has succeeded. -/
theorem content?_generate (ho : o.names.Apart) {rs : List Results} {path : Path}
    (h : (generate o).on d = (.ok rs, d')) (hfinds : d.Finds o path top files)
    (hsketch : ∀ f ∈ files, f.isSketch = true) :
    (∀ f ∈ files, (d.texts? o f).isSome = true) ∧
      ∀ l, d'.storage.tree.content? l =
        (d.written? o top files l).or (d.storage.tree.content? l) := by
  obtain ⟨path', top', files', node, hfinds', -, hwrite⟩ := of_generate_eq_ok h
  obtain ⟨rfl, rfl, rfl⟩ := hfinds.unique hfinds'
  obtain ⟨-, printed, hmap⟩ := of_writeAll_eq_ok hwrite
  have hfiles := content?_mapM ho hmap hsketch
  exact hfiles

end Work

end TableSketch
