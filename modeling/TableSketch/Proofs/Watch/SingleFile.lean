import TableSketch.Proofs.Watch.History

/-!
# Watching a single file

A watched file is concerned by the paths that denote it and by no others.  That
is decided anew at every event, though, from the files that are there at that
moment: while the watched file is missing, as between the two halves of a save
that removes it and writes it again, the watcher takes any path to a sketch for
its own (`Course.relevant_iff_of_not_named`).

So what one would like to be true of all calls holds of those that are due to
an event at which the watched file was there (`Course.single_file`).

## Main results

* `Course.relevant_iff_of_not_named` — when an event about other files is
  relevant.
* `Course.single_file` — what calls are due to.
-/

namespace TableSketch

/-- An event names the watched file: one of its paths denotes it. -/
def Scene.Names {τ : Type} (s : Scene τ) (e : ChangeEvent) : Prop :=
  ∃ p ∈ e.paths, Watcher.SamePlace s.desk.storage p s.watcher.path

/-- No file stands at the watched path. -/
def Scene.Misses {τ : Type} (s : Scene τ) : Prop :=
  s.desk.storage.isFile s.watcher.path = .ok false

namespace Course

variable {τ : Type} [Add τ] [LE τ] [DecidableLE τ] [Zero τ]
variable {c : Course τ} {e : ChangeEvent} {i : Nat}

theorem relevant_iff_isRelevant (h : c.steps[i]? = some (.event e)) :
    c.Relevant i ↔
      (c.scene i).watcher.IsRelevant (c.scene i).desk.storage e := by
  constructor
  · rintro ⟨x, hx, e', rfl, hrelevant⟩
    rw [h, Option.some.injEq, SceneStep.event.injEq] at hx
    rw [hx]
    exact hrelevant
  · exact fun hrelevant => ⟨_, h, e, rfl, hrelevant⟩

/-- A relevant event names the watched file, or it names a sketch and there is
no watched file. -/
theorem Relevant.names_or_misses (h : c.Relevant i) :
    ∃ e, c.steps[i]? = some (.event e) ∧ ((c.scene i).Names e ∨
      ((c.scene i).Misses ∧ ∃ p ∈ e.paths, p.isSketch = true)) := by
  obtain ⟨x, hx, e, rfl, hrelevant⟩ := h
  refine ⟨e, hx, ?_⟩
  obtain ⟨p, hp, hconcern⟩ := hrelevant.concerned
  rcases Watcher.concerns_eq_true hconcern with ⟨-, hsame⟩ | ⟨hnone, hsketch⟩
  · exact Or.inl ⟨p, hp, hsame⟩
  · exact Or.inr ⟨hnone, p, hp, hsketch⟩

/-- **An event about other files** is relevant if the watched file is missing
and one of them is a sketch, and only then. -/
theorem relevant_iff_of_not_named (h : c.steps[i]? = some (.event e))
    (hother : ¬ (c.scene i).Names e) :
    c.Relevant i ↔ e.isDirectory = false ∧ (c.scene i).Misses ∧
      ∃ p ∈ e.paths, p.isSketch = true := by
  rw [relevant_iff_isRelevant h]
  constructor
  · intro hrelevant
    obtain ⟨p, hp, hconcern⟩ := hrelevant.concerned
    rcases Watcher.concerns_eq_true hconcern with ⟨-, hsame⟩ | ⟨hnone, hsketch⟩
    · exact absurd ⟨p, hp, hsame⟩ hother
    · exact ⟨hrelevant.notDirectory, hnone, p, hp, hsketch⟩
  · rintro ⟨hdir, hnone, p, hp, hsketch⟩
    have htold := Watcher.concerns_of_no_file hnone
    exact ⟨hdir, ⟨p, hp, by rw [htold, hsketch]⟩, fun q _ => ⟨_, htold q⟩⟩

/-- An event that is not relevant passes the watcher by. -/
theorem passes_by (h : c.steps[i]? = some (.event e))
    (hnot : ¬ c.Relevant i) :
    ¬ c.Called i ∧ (c.scene (i + 1)).watcher = (c.scene i).watcher := by
  rw [relevant_iff_isRelevant h] at hnot
  obtain ⟨failure, hreaction⟩ :=
    Watcher.onEvent_of_not_isRelevant hnot (c.scene i).now
  constructor
  · rw [called_iff_step h, Scene.called_step, Scene.reaction, hreaction]
    exact Bool.false_ne_true
  · rw [scene_succ h, Scene.watcher_step, Scene.reaction, hreaction]

/-- **Watching a single file.**  Every call is due to an event that names the
watched file, or that names a sketch and came while the watched file was
missing.  An event that names other files only is relevant exactly if the
watched file is missing then and one of the others is a sketch; if not, it
neither calls nor changes what is due. -/
theorem single_file (c : Course τ) (hnew : c.start.watcher.due = none) :
    (∀ j, c.Called j → ∃ i ≤ j, ∃ e, c.steps[i]? = some (.event e) ∧
      c.DueTo i j ∧ ((c.scene i).Names e ∨
        ((c.scene i).Misses ∧ ∃ p ∈ e.paths, p.isSketch = true))) ∧
    ∀ i e, c.steps[i]? = some (.event e) → ¬ (c.scene i).Names e →
      (c.Relevant i ↔ e.isDirectory = false ∧ (c.scene i).Misses ∧
        ∃ p ∈ e.paths, p.isSketch = true) ∧
      (¬ c.Relevant i →
        ¬ c.Called i ∧ (c.scene (i + 1)).watcher = (c.scene i).watcher) := by
  constructor
  · intro j hcalled
    obtain ⟨i, hi, hdue⟩ := hcalled.exists_dueTo hnew
    obtain ⟨e, he, hcases⟩ := hdue.relevant.names_or_misses
    exact ⟨i, hi, e, he, hdue, hcases⟩
  · intro i e h hother
    exact ⟨relevant_iff_of_not_named h hother, passes_by h⟩

/-- A single file, watched without a delay. -/
def fileScene : Scene Binary64 :=
  { desk := { storage := { tree := ⟨[(["a.d2"], .file [])]⟩ } }
    now := 0
    watcher := { path := .ofString "a.d2", delay := 0 } }

/-- A save that writes a new file and moves it to the place of the watched one,
with another sketch changing in between. -/
def movedSave : Course Binary64 where
  answer _ := pure ()
  start := fileScene
  steps :=
    [.write (.ofString "a.d2~") [], .event { source := "b.d2" },
      .event { source := "a.d2~", target := some "./a.d2", kind := "moved" }]

/-- The other sketch goes unnoticed. -/
theorem single_file_of_movedSave :
    movedSave.start.watcher.due = none ∧ ¬ movedSave.Relevant 1 ∧
      movedSave.Called 2 ∧ ∃ i ≤ 2, movedSave.DueTo i 2 ∧
        ((∃ e, movedSave.steps[i]? = some (.event e) ∧
          (movedSave.scene i).Names e) ∨ (movedSave.scene i).Misses) := by
  have hnew : movedSave.start.watcher.due = none := rfl
  obtain ⟨hcalls, hothers⟩ := single_file movedSave hnew
  have hcalled : movedSave.Called 2 := ⟨_, rfl, rfl⟩
  have hthere : ¬ (movedSave.scene 1).Misses := by
    intro hmisses
    cases hmisses
  have hother : ¬ (movedSave.scene 1).Names { source := "b.d2" } := by
    rintro ⟨p, hp, l, hl, hl'⟩
    obtain rfl := List.mem_singleton.mp hp
    rw [← hl'] at hl
    exact absurd (Except.ok.inj hl) (by decide)
  refine ⟨hnew, ?_, hcalled, ?_⟩
  · rw [(hothers 1 _ rfl hother).1]
    exact fun h => hthere h.2.1
  · obtain ⟨i, hi, e, he, hdue, hnames | hmisses⟩ := hcalls 2 hcalled
    · exact ⟨i, hi, hdue, Or.inl ⟨e, he, hnames⟩⟩
    · exact ⟨i, hi, hdue, Or.inr hmisses.1⟩

/-- A save that removes the watched file first, with another sketch changing
before it is written again. -/
def removedSave : Course Binary64 where
  answer _ := pure ()
  start := fileScene
  steps :=
    [.delete (.ofString "a.d2"), .event { source := "b.d2" },
      .write (.ofString "a.d2") []]

/-- The watcher calls, though no event names the watched file. -/
theorem removedSave_called :
    removedSave.start.watcher.due = none ∧
      removedSave.start.desk.storage.isFile removedSave.start.watcher.path =
        .ok true ∧
      removedSave.Called 1 ∧
      ∀ i e, removedSave.steps[i]? = some (.event e) →
        ¬ (removedSave.scene i).Names e := by
  refine ⟨rfl, rfl, ⟨_, rfl, rfl⟩, ?_⟩
  intro i e he hnames
  obtain ⟨hi, -⟩ := List.getElem?_eq_some_iff.mp he
  have hplaces : i = 0 ∨ i = 1 ∨ i = 2 := by
    change i < 3 at hi
    omega
  rcases hplaces with rfl | rfl | rfl
  · cases he
  · cases he
    obtain ⟨p, hp, l, hl, hl'⟩ := hnames
    obtain rfl := List.mem_singleton.mp hp
    rw [← hl'] at hl
    exact absurd (Except.ok.inj hl) (by decide)
  · cases he

end Course

end TableSketch
