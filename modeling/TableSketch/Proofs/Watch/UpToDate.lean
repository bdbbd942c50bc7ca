import Mathlib.Data.Nat.Find
import TableSketch.Proofs.Generation.Results
import TableSketch.Proofs.Watch.History

/-!
# No saved edit is lost

A watcher looks at files only when it calls, and it may call a long time after
the event that made it do so.  So what it finds is not what was announced.  But
an event is never followed by fewer edits than its call: if all edits are made
when a relevant event comes, then the call that is due to the event, or to a
later one, finds them all made (`Course.exists_call`).  Nothing happens to the
files behind the last call, except for edits (`Course.desk_scene_eq`).

How the calls before the last one ended does not matter, because a run that
succeeds writes all results anew, whatever is there when it begins
(`Work.upToDate_of_generate`).

## Main results

* `Course.exists_call` — a relevant event is followed by a call, unless it is
  cancelled or still pending.
* `Course.up_to_date` — in the end the results are those of the edited files.
-/

namespace TableSketch

/-- A step that changes a file from outside. -/
def SceneStep.IsEdit {τ : Type} (x : SceneStep τ) : Prop :=
  (∃ p content, x = .write p content) ∨ ∃ p, x = .delete p

theorem Scene.outside_of_not_isEdit {τ : Type} {x : SceneStep τ}
    (h : ¬ x.IsEdit) (s : Scene τ) (t : FileTree) : s.outside x t = t := by
  cases x with
  | write p content => exact absurd (Or.inl ⟨p, content, rfl⟩) h
  | delete p => exact absurd (Or.inr ⟨p, rfl⟩) h
  | event e => rfl
  | advance d => rfl
  | flush => rfl
  | cancel => rfl
  | rest => rfl

namespace Scene

variable {τ : Type} [Add τ] [LE τ] [DecidableLE τ] [Zero τ]
variable {s : Scene τ} {x : SceneStep τ}

/-- What is due stays so without a relevant event, a call or a cancellation. -/
theorem due_of_not_calls {t : τ} (hd : ¬ s.watcher.delay ≤ 0)
    (h : s.watcher.due = some t) (hnotices : ¬ s.Notices x)
    (hcalls : ¬ (s.reaction x).calls = true) (hcancel : x ≠ .cancel) :
    (s.reaction x).watcher.due = some t := by
  refine (reaction_due_iff hd x t).mpr (Or.inr ⟨h, ?_⟩)
  rintro (hnotices' | hcancel' | hdelivers)
  · exact hnotices hnotices'
  · exact hcancel hcancel'
  · exact hcalls ((reaction_calls_iff s x).mpr (Or.inr ⟨t, h, hdelivers⟩))

/-- What is pending stays so without a call or a cancellation. -/
theorem pending_of_not_calls (hd : ¬ s.watcher.delay ≤ 0)
    (h : s.watcher.pending = true) (hcalls : ¬ (s.reaction x).calls = true)
    (hcancel : x ≠ .cancel) : (s.reaction x).watcher.pending = true := by
  obtain ⟨t, ht⟩ := Option.isSome_iff_exists.mp h
  refine Option.isSome_iff_exists.mpr ?_
  by_cases hnotices : s.Notices x
  · exact ⟨_, (reaction_due_iff hd x _).mpr (Or.inl ⟨hnotices, rfl⟩)⟩
  · exact ⟨t, due_of_not_calls hd ht hnotices hcalls hcancel⟩

/-- A relevant event makes results pending, if there is a delay. -/
theorem pending_of_notices (hd : ¬ s.watcher.delay ≤ 0) (h : s.Notices x) :
    (s.reaction x).watcher.pending = true :=
  Option.isSome_iff_exists.mpr
    ⟨_, (reaction_due_iff hd x _).mpr (Or.inl ⟨h, rfl⟩)⟩

end Scene

/-- Results whose writing has succeeded come from a run that has. -/
theorem exists_of_writeResults {o : Order} {d d' : Desk}
    (h : (writeResults o).on d = (.ok (), d')) :
    ∃ rs, (Work.generate o).on d = (.ok rs, d') := by
  have hbind : writeResults o = Work.generate o >>= fun _ => pure () := by
    rw [writeResults, discard, map_const, bind_pure_comp]
    rfl
  rw [hbind] at h
  obtain ⟨rs, d₁, hrun, h⟩ := Work.exists_of_on_bind h
  cases h
  exact ⟨rs, hrun⟩

namespace Course

variable {τ : Type} [Add τ] [LE τ] [DecidableLE τ] [Zero τ]
variable {c : Course τ} {x : SceneStep τ} {i j k : Nat}

/-- A step changes a file from outside. -/
def Edits (c : Course τ) (i : Nat) : Prop :=
  ∃ x, c.steps[i]? = some x ∧ x.IsEdit

/-! ## Calls behind an event -/

theorem lt_length_of_called (h : c.Called i) : i < c.steps.length := by
  obtain ⟨x, hx⟩ := h.exists_step
  exact (List.getElem?_eq_some_iff.mp hx).1

/-- Results are pending until a call or a cancellation is made. -/
theorem pending_of_no_call (hd : ¬ c.start.watcher.delay ≤ 0)
    (hrelevant : c.Relevant i) (hlt : i < k)
    (hcancel : ∀ j, i < j → j < k → c.steps[j]? ≠ some .cancel)
    (hnone : ∀ j, i ≤ j → j < k → ¬ c.Called j) :
    (c.scene k).watcher.pending = true := by
  have hdelay : ∀ j, ¬ (c.scene j).watcher.delay ≤ 0 := by
    intro j
    rwa [delay_scene]
  refine scene_induction (P := fun s => s.watcher.pending = true) hlt ?_ ?_
  · obtain ⟨x, hx, hnotices⟩ := hrelevant
    rw [scene_succ hx, Scene.watcher_step]
    exact Scene.pending_of_notices (hdelay i) hnotices
  · intro j x hij hjk hx hpending
    have hcalls := hnone j (Nat.le_of_lt hij) hjk
    rw [called_iff_step hx, Scene.called_step] at hcalls
    have hother : x ≠ .cancel := by
      rintro rfl
      exact hcancel j hij hjk hx
    rw [Scene.watcher_step]
    exact Scene.pending_of_not_calls (hdelay j) hpending hcalls hother

/-- **A relevant event is followed by a call**, or it is a call itself, if
nothing is cancelled and nothing is pending in the end. -/
theorem exists_call (hnew : c.start.watcher.due = none)
    (hcancel : .cancel ∉ c.steps) (hidle : c.last.watcher.pending = false)
    (hrelevant : c.Relevant i) : ∃ j ≥ i, c.Called j := by
  by_cases hd : c.start.watcher.delay ≤ 0
  · exact ⟨i, Nat.le_refl i, (called_iff_of_no_delay hnew hd i).mpr hrelevant⟩
  · by_contra hnone
    have hlt : i < c.steps.length := by
      obtain ⟨x, hx, -⟩ := hrelevant
      exact (List.getElem?_eq_some_iff.mp hx).1
    have hpending := pending_of_no_call hd hrelevant hlt
      (fun j _ _ heq => hcancel (List.mem_of_getElem? heq))
      (fun j hj _ hcalled => hnone ⟨j, hj, hcalled⟩)
    rw [scene_length, hidle] at hpending
    cases hpending

/-- If there is a call from some step on, there is a last one. -/
theorem exists_last_call (h : ∃ j ≥ i, c.Called j) :
    ∃ j ≥ i, c.Called j ∧ ∀ k > j, ¬ c.Called k := by
  classical
  obtain ⟨j, hj, hcalled⟩ := h
  have hbound : j ≤ c.steps.length := Nat.le_of_lt (lt_length_of_called hcalled)
  refine ⟨Nat.findGreatest c.Called c.steps.length, ?_, ?_, ?_⟩
  · exact Nat.le_trans hj (Nat.le_findGreatest hbound hcalled)
  · exact Nat.findGreatest_spec hbound hcalled
  · intro k hk hcalled'
    exact Nat.findGreatest_is_greatest hk
      (Nat.le_of_lt (lt_length_of_called hcalled')) hcalled'

/-! ## The desk -/

/-- Without calls and edits nothing happens to the desk. -/
theorem desk_scene_eq (hcalls : ∀ j ≥ i, ¬ c.Called j)
    (hedits : ∀ j ≥ i, ¬ c.Edits j) (hle : i ≤ k) :
    (c.scene k).desk = (c.scene i).desk := by
  refine scene_induction (P := fun s => s.desk = (c.scene i).desk) hle rfl ?_
  intro j x hij _ hx hdesk
  have hnot := hcalls j hij
  rw [called_iff_step hx, Bool.not_eq_true] at hnot
  have hedit : ¬ x.IsEdit := by
    intro h
    exact hedits j hij ⟨x, hx, h⟩
  rw [← hdesk, Scene.desk_step_of_not_called hnot,
    Scene.outside_of_not_isEdit hedit]

/-- The last call leaves its desk to the end, if no edits are made behind
it. -/
theorem last_desk_of_called (hcalled : c.Called j)
    (hlast : ∀ k > j, ¬ c.Called k) (hedits : ∀ k > j, ¬ c.Edits k)
    {r : SceneReport} (hr : c.report? j = some r) (hok : r.failure = none) :
    (c.answer c.start.watcher.order).on { (c.scene j).desk with log := [] } =
      (.ok (), c.last.desk) := by
  obtain ⟨x, hx⟩ := hcalled.exists_step
  rw [report?_eq hx] at hr
  obtain rfl := Option.some.inj hr
  obtain ⟨hdesk, hresult⟩ :=
    Scene.desk_step_of_called ((called_iff_step hx).mp hcalled)
  have hsame : c.last.desk = ((c.scene j).step c.answer x).1.desk := by
    rw [← scene_succ hx, ← scene_length]
    exact desk_scene_eq (fun k hk => hlast k hk) (fun k hk => hedits k hk)
      (lt_length_of_called hcalled)
  rw [order_scene] at hdesk hresult
  rw [hsame, hdesk, ← hresult.mp hok]

/-! ## In the end -/

/-- **No saved edit is lost.**  Let a relevant event come behind all edits, let
nothing be cancelled and nothing be pending in the end, and let the last call
have succeeded.  Then the results of every schema file that is found in the
watched directory and has a directory of its own for them are those of what is
in that file in the end.  The directory is the one that a run works on: where
the watched path begins with `~`, that stands for a home directory. -/
theorem up_to_date (c : Course τ) (hanswer : c.answer = writeResults)
    (hnew : c.start.watcher.due = none) (hcancel : .cancel ∉ c.steps)
    (hseen : ∃ i, c.Relevant i ∧ ∀ j > i, ¬ c.Edits j)
    (hidle : c.last.watcher.pending = false)
    (hlast : ∀ j r, c.report? j = some r → r.called = true →
      (∀ k > j, ¬ c.Called k) → r.failure = none)
    {path f : Path} {files : List Path}
    (hpath : Path.expandHome? c.last.desk.storage.home?
      c.start.watcher.path = some path)
    (hdir : c.last.desk.storage.isDir path = .ok true)
    (hfiles : ({} : Discovery).find c.last.desk.storage path = .ok files)
    (hf : f ∈ files)
    (hown : c.last.desk.HasOwnDir c.start.watcher.order (some path) files f) :
    c.last.desk.UpToDate c.start.watcher.order (some path) f := by
  obtain ⟨i, hrelevant, hedits⟩ := hseen
  obtain ⟨j, hj, hcalled, hmax⟩ :=
    exists_last_call (exists_call hnew hcancel hidle hrelevant)
  obtain ⟨r, hr, htrue⟩ := hcalled
  have hok : r.failure = none := hlast j r hr htrue hmax
  have hlater : ∀ k > j, ¬ c.Edits k := fun k hk => hedits k (by omega)
  have hrun := last_desk_of_called ⟨r, hr, htrue⟩ hmax hlater hr hok
  rw [hanswer] at hrun
  obtain ⟨rs, hrun⟩ := exists_of_writeResults hrun
  exact Work.upToDate_of_generate ResultNames.apart_default hrun hpath hdir
    hfiles hf hown

/-- A watch whose first call fails, because a file stands where the results are
to go.  That file is removed, the sketch is written again, and it is only then
that the watcher hears of it and is asked for results. -/
def blockedBurst : Course Binary64 where
  answer := writeResults
  start :=
    { desk.storage.tree := ⟨[(["w"], .dir), (["out"], .file [])]⟩
      now := 0
      watcher := { path := .ofString "w", delay := .ofInt 3 } }
  steps :=
    [.write (.ofString "w/a.d2") [], .event { source := "w/a.d2" },
      .advance (.ofInt 2), .write (.ofString "w/a.d2") [0x54],
      .advance (.ofInt 1), .delete (.ofString "out"),
      .write (.ofString "w/a.d2")
        (Text.encode "T: {shape: sql_table; id: int}".toList),
      .event { source := "w/a.tmp", target := some "w/a.d2", kind := "moved" },
      .flush]

/-- What comes of it, step by step. -/
theorem blockedBurst_run :
    (blockedBurst.report? 4).map SceneReport.failure =
        some (some (.storage .notADirectory)) ∧
      (blockedBurst.scene 7).watcher.hits (blockedBurst.scene 7).desk.storage
        { source := "w/a.tmp", target := some "w/a.d2", kind := "moved" } =
          .ok [.ofString "w/a.d2"] ∧
      blockedBurst.Called 8 ∧
      (blockedBurst.report? 8).map SceneReport.failure = some none ∧
      blockedBurst.last.watcher.pending = false ∧
      Path.expandHome? blockedBurst.last.desk.storage.home? (.ofString "w") =
        some (.ofString "w") ∧
      blockedBurst.last.desk.storage.isDir (.ofString "w") = .ok true ∧
      ({} : Discovery).find blockedBurst.last.desk.storage (.ofString "w") =
        .ok [.ofString "w/a.d2"] := by
  decide +kernel

/-- In the end the results are those of the sketch that was written last. -/
theorem up_to_date_of_blockedBurst :
    (blockedBurst.report? 4).map SceneReport.failure =
        some (some (.storage .notADirectory)) ∧
      blockedBurst.last.desk.UpToDate blockedBurst.start.watcher.order
        (some (.ofString "w")) (.ofString "w/a.d2") := by
  obtain ⟨hblocked, hhits, hcalled, hok, hidle, hpath, hdir, hfiles⟩ :=
    blockedBurst_run
  have hlength : blockedBurst.steps.length = 9 := rfl
  have hseen : ∃ i, blockedBurst.Relevant i ∧
      ∀ j > i, ¬ blockedBurst.Edits j := by
    refine ⟨7, ⟨_, rfl, _, rfl, Watcher.isRelevant_iff.mpr
      ⟨_, hhits, List.cons_ne_nil _ _⟩⟩, ?_⟩
    rintro j hj ⟨x, hx, hedit⟩
    have hlt := (List.getElem?_eq_some_iff.mp hx).1
    obtain rfl : j = 8 := by omega
    obtain rfl := Option.some.inj hx
    rcases hedit with ⟨_, _, hedit⟩ | ⟨_, hedit⟩
    · cases hedit
    · cases hedit
  have hlast : ∀ j r, blockedBurst.report? j = some r → r.called = true →
      (∀ k > j, ¬ blockedBurst.Called k) → r.failure = none := by
    intro j r hr htrue hmax
    have hlt := lt_length_of_called ⟨r, hr, htrue⟩
    obtain rfl : j = 8 := by
      by_contra hne
      exact hmax 8 (by omega) hcalled
    rw [hr, Option.map_some, Option.some.injEq] at hok
    exact hok
  refine ⟨hblocked, up_to_date blockedBurst rfl rfl ?_ hseen hidle hlast hpath
    hdir hfiles List.mem_cons_self ?_⟩
  · intro hcancel
    simp [blockedBurst] at hcancel
  · intro f hf hne
    exact absurd (List.mem_singleton.mp hf) hne

end Course

end TableSketch
