import TableSketch.Proofs.Generation.Keeping
import TableSketch.Proofs.Storage.Fitting

/-!
# Runs that succeed

A run succeeds if everything is ready for it: the schema files can be read, the
policy for duplicates is known, the console takes the lines that are printed, and
there is room for the results, which is told by a storage that holds all of them
(`Work.exists_generate_of_ready`).  A run that has succeeded leaves everything ready
for another one, the storage that it leaves being one with the room
(`Work.ready_of_generate`).

So a run that has succeeded tells that another one will succeed: one for the same
schema files on a storage that fits into the one that is left.

## Main results

* `Desk.Ready` — what a run needs for a schema file.
* `Work.exists_generate_of_ready` — a run that is ready succeeds.
* `Work.ready_of_generate` — one that has succeeded could be done again.
-/

namespace TableSketch

open Work

/-- A schema file can be read, its results can be reported, and there is room for
them in a storage. -/
structure Desk.Ready (d : Desk) (o : Order) (top : Option Path) (b : Storage)
    (file : Path) : Prop where
  sketch : file.isSketch = true
  read : ∃ text policy, d.storage.readSketch file = .ok text ∧
    DuplicatePolicy.ofName? d.settings.duplicates = some policy ∧
    ∀ line ∈ reportLines file
        (resolveDuplicates policy (tables d.settings.scanMode text)).length
        (o.names.inDir (o.dirOf d.settings top file)),
      Sayable d.columns line
  room : ∀ p ∈ (o.names.inDir (o.dirOf d.settings top file)).all,
    b.isFile p = .ok true

instance Desk.decidableReady (d : Desk) (o : Order) (top : Option Path)
    (b : Storage) (file : Path) : Decidable (d.Ready o top b file) :=
  decidable_of_iff (file.isSketch = true ∧
    (∃ text ∈ (d.storage.readSketch file).toOption,
      ∃ policy ∈ DuplicatePolicy.ofName? d.settings.duplicates,
      ∀ line ∈ reportLines file
          (resolveDuplicates policy (tables d.settings.scanMode text)).length
          (o.names.inDir (o.dirOf d.settings top file)),
        Sayable d.columns line) ∧
    ∀ p ∈ (o.names.inDir (o.dirOf d.settings top file)).all,
      b.isFile p = .ok true) <| by
  constructor
  · rintro ⟨hsketch, ⟨text, htext, policy, hpolicy, htold⟩, hroom⟩
    have hread : d.storage.readSketch file = .ok text := by
      cases hread : d.storage.readSketch file with
      | error f => simp [hread, Except.toOption] at htext
      | ok _ => simpa [hread, Except.toOption] using htext
    exact ⟨hsketch, ⟨text, policy, hread, hpolicy, htold⟩, hroom⟩
  · intro h
    obtain ⟨text, policy, hread, hpolicy, htold⟩ := h.read
    refine ⟨h.sketch, ⟨text, ?_, policy, hpolicy, htold⟩, h.room⟩
    rw [hread]
    rfl

section Ready

variable {L : Location → Prop} {s s' b : Storage} {d d' : Desk} {o : Order}
variable {top : Option Path} {file : Path} {files : List Path} {r : Results}

/-- Schema files stay ready while other files are changed. -/
theorem Desk.Ready.changed (h : d.Ready o top b file)
    (hsettings : d'.settings = d.settings) (hcolumns : d'.columns = d.columns)
    (hchanged : d.storage.Changed L d'.storage)
    (hfile : ¬ L (d.storage.place file)) : d'.Ready o top b file := by
  obtain ⟨text, policy, hread, hpolicy, htold⟩ := h.read
  refine ⟨h.sketch, ⟨text, policy, hchanged.readSketch hread hfile, ?_, ?_⟩, ?_⟩
  · rw [hsettings]
    exact hpolicy
  · rw [hsettings, hcolumns]
    exact htold
  · rw [hsettings]
    exact h.room

/-- Three files can be saved where there is room for them. -/
theorem Storage.WellFormed.exists_saves (hwf : s.WellFormed) (h : s.Fits b)
    (hroom : ∀ p ∈ r.all, b.isFile p = .ok true)
    (texts : ResultTexts) :
    ∃ s', s.Saves r texts s' ∧ s'.WellFormed ∧ s'.Fits b := by
  have hsave : ∀ (s : Storage) (p : Path) (text : String), s.WellFormed →
      s.Fits b → p ∈ r.all → ∃ s', s.saveText p text = (s', .ok ()) ∧
        s'.WellFormed ∧ s'.Fits b := by
    intro s p text hs hfits hp
    obtain ⟨s', hsaved, hfits'⟩ :=
      hs.save_of_fits hfits (hroom p hp) (Text.encode text.toList)
    have hs' := hs.save p (Text.encode text.toList)
    rw [hsaved] at hs'
    exact ⟨s', hsaved, hs', hfits'⟩
  obtain ⟨s₁, hscript, hs₁, hfits₁⟩ :=
    hsave s r.script texts.script hwf h (by simp [Results.all])
  obtain ⟨s₂, hpreview, hs₂, hfits₂⟩ :=
    hsave s₁ r.preview texts.preview hs₁ hfits₁ (by simp [Results.all])
  obtain ⟨s₃, hprompt, hs₃, hfits₃⟩ :=
    hsave s₂ r.prompt texts.prompt hs₂ hfits₂ (by simp [Results.all])
  exact ⟨s₃, ⟨s₁, s₂, hscript, hpreview, hprompt⟩, hs₃, hfits₃⟩

/-- A storage in which results were saved has room for them. -/
theorem Storage.HoldsResults.room {texts : ResultTexts}
    (h : s.HoldsResults r texts) : ∀ p ∈ r.all, s.isFile p = .ok true := by
  intro p hp
  simp only [Results.all, List.mem_cons, List.not_mem_nil, or_false] at hp
  rcases hp with rfl | rfl | rfl
  · exact Storage.isFile_iff.mpr ⟨_, h.script⟩
  · exact Storage.isFile_iff.mpr ⟨_, h.preview⟩
  · exact Storage.isFile_iff.mpr ⟨_, h.prompt⟩

end Ready

namespace Work

variable {b : Storage} {d d' : Desk} {o : Order} {top : Option Path}
variable {path file : Path} {files : List Path} {rs : List Results}

/-! ## Runs that are ready -/

theorem exists_generateFile_of_ready (hwf : d.storage.WellFormed)
    (hfits : d.storage.Fits b) (h : d.Ready o top b file) :
    ∃ r d', (generateFile o top file).on d = (.ok r, d') ∧
      d'.columns = d.columns ∧ d'.storage.WellFormed ∧ d'.storage.Fits b := by
  obtain ⟨text, policy, hread, hpolicy, htold⟩ := h.read
  obtain ⟨s', hsaved, hwf', hfits'⟩ := hwf.exists_saves hfits h.room
    (ResultTexts.ofTables
      (resolveDuplicates policy (tables d.settings.scanMode text)) o.flags
      d.settings.dimension)
  obtain ⟨d', hrun, rfl, -, hcolumns⟩ := generateFile_of_parts
    ⟨⟨text, hread, policy, hpolicy, rfl⟩, hsaved, htold⟩
  exact ⟨_, d', hrun, hcolumns, hwf', hfits'⟩

/-- Results are written for one schema file after the other if all are ready. -/
theorem exists_mapM_of_ready (ho : o.names.Apart) (hwf : d.storage.WellFormed)
    (hfits : d.storage.Fits b) (h : ∀ f ∈ files, d.Ready o top b f) :
    ∃ rs d', (files.mapM (generateFile o top)).on d = (.ok rs, d') ∧
      d'.storage.Fits b := by
  induction files generalizing d with
  | nil => exact ⟨[], d, rfl, hfits⟩
  | cons g gs ih =>
      obtain ⟨r, d₁, hfirst, hcolumns, hwf₁, hfits₁⟩ :=
        exists_generateFile_of_ready hwf hfits (h g List.mem_cons_self)
      have hgrown := (of_generateFile_eq_ok ho hfirst).2.1
      have hready : ∀ f ∈ gs, d₁.Ready o top b f := by
        intro f hf
        have hf := h f (List.mem_cons_of_mem g hf)
        exact hf.changed hgrown.settings hcolumns hgrown.storage.changed
          (Desk.not_isResult_of_isSketch ho hf.sketch)
      obtain ⟨rs, d', hrest, hfits'⟩ := ih hwf₁ hfits₁ hready
      refine ⟨r :: rs, d', ?_, hfits'⟩
      rw [List.mapM_cons, on_bind_of_ok hfirst, on_bind_of_ok hrest]
      rfl

/-- **A run succeeds** if everything is ready for it. -/
theorem exists_generate_of_ready (ho : o.names.Apart) (hwf : d.storage.WellFormed)
    (hfits : d.storage.Fits b) (hfinds : d.Finds o path top files) {node : Node}
    (hnode : d.storage.find path = .ok (some node))
    (htold : Sayable d.columns (foundLine files.length))
    (h : ∀ f ∈ files, d.Ready o top b f) :
    ∃ rs d', (generate o).on d = (.ok rs, d') ∧ d'.storage.Fits b := by
  obtain ⟨printed, hsay⟩ := exists_on_say_of_sayable htold
  let d₁ : Desk := { d with printed := printed }
  have hready : ∀ f ∈ files, d₁.Ready o top b f :=
    fun f hf => ⟨(h f hf).sketch, (h f hf).read, (h f hf).room⟩
  obtain ⟨rs, d', hrun, hfits'⟩ := exists_mapM_of_ready (d := d₁) ho hwf hfits hready
  refine ⟨rs, d', ?_, hfits'⟩
  rw [generate_of_finds hfinds hnode, writeAll, on_bind_of_ok hsay]
  exact hrun

/-! ## Runs that have succeeded -/

/-- A schema file is ready again when its results have been written. -/
theorem ready_of_generateFile (ho : o.names.Apart) {r : Results}
    (h : (generateFile o top file).on d = (.ok r, d'))
    (hsketch : file.isSketch = true) :
    d'.Ready o top d'.storage file ∧ d'.columns = d.columns := by
  obtain ⟨ts, hparts, -, hsettings, hcolumns⟩ := exists_parts h
  obtain ⟨-, hgrown, -⟩ := of_generateFile_eq_ok ho h
  obtain ⟨text, hread, policy, hpolicy, rfl⟩ := hparts.read
  obtain ⟨-, hholds⟩ := hparts.saved.holdsResults ho
  have hkept : ¬ d.IsResult o top [file] (d.storage.place file) :=
    Desk.not_isResult_of_isSketch ho hsketch
  have hready : d.Ready o top d'.storage file :=
    ⟨hsketch, ⟨text, policy, hread, hpolicy, hparts.told⟩, hholds.room⟩
  exact ⟨hready.changed hsettings hcolumns hgrown.storage.changed hkept, hcolumns⟩

theorem ready_of_mapM (ho : o.names.Apart)
    (h : (files.mapM (generateFile o top)).on d = (.ok rs, d'))
    (hsketch : ∀ f ∈ files, f.isSketch = true) :
    (∀ f ∈ files, d'.Ready o top d'.storage f) ∧ d'.columns = d.columns := by
  induction files generalizing d rs with
  | nil =>
      cases h
      exact ⟨fun f hf => absurd hf List.not_mem_nil, rfl⟩
  | cons g gs ih =>
      rw [List.mapM_cons] at h
      obtain ⟨r, d₁, hfirst, h⟩ := exists_of_on_bind h
      obtain ⟨rs', d₂, hrest, h⟩ := exists_of_on_bind h
      cases h
      obtain ⟨hready, hcolumns⟩ :=
        ready_of_generateFile ho hfirst (hsketch g List.mem_cons_self)
      obtain ⟨hothers, hcolumns'⟩ :=
        ih hrest fun f hf => hsketch f (List.mem_cons_of_mem g hf)
      refine ⟨?_, hcolumns'.trans hcolumns⟩
      intro f hf
      rcases List.mem_cons.mp hf with rfl | hf
      · obtain ⟨-, hgrown, -⟩ := of_mapM_eq_ok ho hrest
        have hlater := hready.changed hgrown.settings hcolumns'
          hgrown.storage.changed (Desk.not_isResult_of_isSketch ho hready.sketch)
        refine ⟨hlater.sketch, hlater.read, ?_⟩
        intro p hp
        rw [hgrown.settings] at hp
        exact hgrown.storage.isFile (hready.room p hp)
      · exact hothers f hf

/-- **After a run that has succeeded** everything is ready for another one. -/
theorem ready_of_generate (ho : o.names.Apart)
    (h : (generate o).on d = (.ok rs, d')) (hfinds : d.Finds o path top files)
    (hsketch : ∀ f ∈ files, f.isSketch = true) :
    Sayable d'.columns (foundLine files.length) ∧
      ∀ f ∈ files, d'.Ready o top d'.storage f := by
  obtain ⟨path', top', files', node, hfinds', -, hwrite⟩ := of_generate_eq_ok h
  obtain ⟨rfl, rfl, rfl⟩ := hfinds.unique hfinds'
  obtain ⟨htold, printed, hmap⟩ := of_writeAll_eq_ok hwrite
  obtain ⟨hready, hcolumns⟩ := ready_of_mapM ho hmap hsketch
  exact ⟨hcolumns ▸ htold, hready⟩

end Work

end TableSketch
