import TableSketch.Proofs.Generation.Results
import TableSketch.Proofs.Storage.Invariant

/-!
# What a run keeps

Whatever comes of a run, nothing happens to the desk but that lines are printed,
messages are logged and results are saved.  So what these keep is kept by every run,
one that fails at any place included (`Work.keeps_generate`).

## Main results

* `Work.Keeps.bind`, `Work.Keeps.mapM` — work that is made of parts.
* `Work.keeps_generate` — what a run keeps.
* `Work.grown_generate` — the files that a run may change.
-/

namespace TableSketch

/-- The three files of results. -/
def Results.all (r : Results) : List Path :=
  [r.script, r.preview, r.prompt]

namespace Work

variable {α β : Type} {I : Desk → Prop} {d d' : Desk} {o : Order}
variable {path file : Path} {top : Option Path} {files : List Path}
variable {settings : Settings}

/-! ## Parts of work -/

/-- Work keeps what holds of a desk, whether it succeeds or not. -/
def Keeps (I : Desk → Prop) (w : Work α) : Prop :=
  ∀ d, I d → I (w.on d).2

theorem Keeps.pure (a : α) : Keeps I (Pure.pure a : Work α) :=
  fun _ h => h

theorem Keeps.bind {w : Work α} {k : α → Work β} (hw : Keeps I w)
    (hk : ∀ a, Keeps I (k a)) : Keeps I (w >>= k) := by
  intro d hd
  have hfirst : I (w.on d).2 := hw d hd
  rw [on_bind]
  cases hrun : w.on d with
  | mk r d₁ =>
      rw [hrun] at hfirst
      cases r with
      | ok a => exact hk a d₁ hfirst
      | error f => exact hfirst

/-- Work may look at the desk before it goes on. -/
theorem Keeps.get_bind {k : Desk → Work β}
    (hk : ∀ d, I d → Keeps I (k d)) : Keeps I ((get : Work Desk) >>= k) := by
  intro d hd
  rw [on_bind, on_get]
  exact hk d hd d hd

theorem Keeps.mapM {f : α → Work β} (as : List α)
    (hf : ∀ a ∈ as, Keeps I (f a)) : Keeps I (as.mapM f) := by
  induction as with
  | nil => exact Keeps.pure _
  | cons a as ih =>
      rw [List.mapM_cons]
      apply Keeps.bind (hf a List.mem_cons_self)
      intro b
      apply Keeps.bind (ih fun a' ha' => hf a' (List.mem_cons_of_mem a ha'))
      intro bs
      exact Keeps.pure _

theorem keeps_ask (question : Storage → Except StorageError α) :
    Keeps I (ask question) := by
  intro d hd
  rw [on_ask]
  exact hd

/-! ## Runs -/

/-- What is kept when a line is printed, a message is logged and a result of one
of the schema files is saved. -/
structure Stable (settings : Settings) (o : Order) (top : Option Path)
    (files : List Path) (I : Desk → Prop) : Prop where
  unset : ∀ d, I d → d.settings = settings
  printed : ∀ d text, I d → I { d with printed := text }
  log : ∀ d messages, I d → I { d with log := messages }
  saved : ∀ d f p text, I d → f ∈ files →
    p ∈ (o.names.inDir (o.dirOf settings top f)).all →
    I { d with storage := (d.storage.saveText p text).1 }

namespace Stable

theorem keeps_say (h : Stable settings o top files I) (text : String) :
    Keeps I (say text) := by
  intro d hd
  obtain ⟨r, printed, hsay⟩ := exists_on_say text d
  rw [hsay]
  exact h.printed d printed hd

theorem keeps_tablesOf (h : Stable settings o top files I) (text : String) :
    Keeps I (tablesOf text) := by
  intro d hd
  rw [on_tablesOf]
  exact h.log d _ hd

theorem keeps_store (h : Stable settings o top files I) (hf : file ∈ files)
    {p : Path} (hp : p ∈ (o.names.inDir (o.dirOf settings top file)).all)
    (text : String) : Keeps I (store (·.saveText p text)) := by
  intro d hd
  rw [on_store]
  exact h.saved d file p text hd hf hp

theorem keeps_generateFile (h : Stable settings o top files I)
    (hf : file ∈ files) : Keeps I (generateFile o top file) := by
  unfold generateFile readSketch
  refine Keeps.bind (keeps_ask _) ?_
  intro text
  refine Keeps.bind (h.keeps_tablesOf text) ?_
  intro ts
  refine Keeps.get_bind ?_
  intro d hd
  rw [h.unset d hd]
  let r := o.names.inDir (o.dirOf settings top file)
  have hscript : r.script ∈ r.all := by simp [Results.all]
  have hpreview : r.preview ∈ r.all := by simp [Results.all]
  have hprompt : r.prompt ∈ r.all := by simp [Results.all]
  refine Keeps.bind (h.keeps_store hf hscript _) fun _ => ?_
  refine Keeps.bind (h.keeps_store hf hpreview _) fun _ => ?_
  refine Keeps.bind (h.keeps_store hf hprompt _) fun _ => ?_
  refine Keeps.bind (h.keeps_say _) fun _ => ?_
  refine Keeps.bind (h.keeps_say _) fun _ => ?_
  refine Keeps.bind (h.keeps_say _) fun _ => ?_
  refine Keeps.bind (h.keeps_say _) fun _ => ?_
  exact Keeps.pure _

theorem keeps_writeAll (h : Stable settings o top files I) :
    Keeps I (writeAll o top files) := by
  refine Keeps.bind (h.keeps_say _) fun _ => ?_
  refine Keeps.mapM files ?_
  intro f hf
  exact h.keeps_generateFile hf

end Stable

/-- **What a run keeps**, whether it fails or not: the settings, the width of the
console, and what is kept of the storage when a result is saved. -/
theorem keeps_generate (o : Order) (d : Desk) {P : Storage → Prop}
    (hd : P d.storage)
    (hsave : ∀ path top files, d.Finds o path top files → ∀ f ∈ files,
      ∀ p ∈ (o.names.inDir (o.dirOf d.settings top f)).all,
      ∀ s text, P s → P (s.saveText p text).1) :
    ((generate o).on d).2.settings = d.settings ∧
      ((generate o).on d).2.columns = d.columns ∧
      P ((generate o).on d).2.storage := by
  rcases generate_cases o d with ⟨f, hstop⟩ |
    ⟨path, top, files, node, hfinds, -, hrun⟩
  · rw [hstop]
    exact ⟨rfl, rfl, hd⟩
  · have hstable : Stable d.settings o top files fun d' =>
        d'.settings = d.settings ∧ d'.columns = d.columns ∧ P d'.storage := by
      constructor
      · exact fun d' h => h.1
      · exact fun d' text h => h
      · exact fun d' messages h => h
      · intro d' f p text h hf hp
        exact ⟨h.1, h.2.1, hsave path top files hfinds f hf p hp _ text h.2.2⟩
    rw [hrun]
    exact hstable.keeps_writeAll d ⟨rfl, rfl, hd⟩

theorem wellFormed_generate (o : Order) (h : d.storage.WellFormed) :
    ((generate o).on d).2.storage.WellFormed := by
  refine (keeps_generate o d h ?_).2.2
  intro path top files _ f _ p _ s text hs
  exact hs.save p _

theorem columns_generate (o : Order) (d : Desk) :
    ((generate o).on d).2.columns = d.columns :=
  (keeps_generate o d (P := fun _ => True) trivial
    fun _ _ _ _ _ _ _ _ _ _ _ => trivial).2.1

end Work

/-! ## The files that a run may change -/

/-- The place is that of a result of a schema file that the order stands for. -/
def Desk.IsTarget (d : Desk) (o : Order) (l : Location) : Prop :=
  ∃ path top files, d.Finds o path top files ∧ d.IsResult o top files l

namespace Storage

variable {s : Storage} {n : ResultNames} {dir p : Path} {l : Location}

/-- The places of results are those of their paths. -/
theorem resultPlaces_eq (h : n.Apart) (s : Storage) (dir : Path) :
    s.resultPlaces n dir = (n.inDir dir).all.map s.place := by
  simp [resultPlaces, Results.all, ResultNames.all, place_script h,
    place_preview h, place_prompt h]

theorem mem_resultPlaces_iff (h : n.Apart) :
    l ∈ s.resultPlaces n dir ↔ ∃ p ∈ (n.inDir dir).all, s.place p = l := by
  rw [resultPlaces_eq h, List.mem_map]

end Storage

namespace Work

variable {o : Order}

/-- **A run changes no files but results**, whether it fails or not. -/
theorem grown_generate (ho : o.names.Apart) (d : Desk) :
    Desk.Grown (d.IsTarget o) d ((generate o).on d).2 := by
  have hkept := keeps_generate o d
    (P := Storage.Grown (d.IsTarget o) d.storage) (.refl _ _) ?_
  · exact ⟨hkept.1, hkept.2.2⟩
  · intro path top files hfinds f hf p hp s text hs
    refine hs.trans ((Storage.grown_saveText s p text).mono ?_)
    rintro l rfl
    refine ⟨path, top, files, hfinds, f, hf, ?_⟩
    rw [hs.place_eq]
    exact (Storage.mem_resultPlaces_iff ho).mpr ⟨p, hp, rfl⟩

end Work

end TableSketch
