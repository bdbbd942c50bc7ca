import TableSketch.Proofs.Generation.Outputs
import TableSketch.Proofs.Watch.UpToDate
import TableSketch.Watch.Loop

/-!
# How a watch ends

Behind a cancellation nothing is due, and only events can make results due again.  So
when no events come any more, a cancelled watcher makes no call, however far the time
advances (`Scene.isQuiet_of_due_eq_none`).  That is the state in which the observer is
stopped, whatever the rounds have left behind (`Loop.isQuiet_shutDown`).

What the loop does can be told from its first run alone (`Loop.run_closes`).  If that
fails, nothing is observed.  Otherwise the observer is started, the loop sleeps once
more than there are rounds, whatever fails in them, and then it is shut down.

What is observed is found by looking the path up as it is given, without the home
directory put in.  For paths that have none to be put in, it is the directory that
results were generated for, or the one that the file stands in.

## Main results

* `Scene.IsQuiet`, `Scene.isQuiet_of_due_eq_none` — when no call is made any more.
* `Loop.isQuiet_shutDown` — how the loop is shut down.
* `Loop.run_closes` — what the loop does.
-/

namespace TableSketch

/-! ## Quiet scenes -/

namespace Scene

variable {τ : Type} [Add τ] [LE τ] [DecidableLE τ] [Zero τ]
variable {s : Scene τ} {x : SceneStep τ}

/-- Without events no call is made any more, whatever a call would do, and the files
are only changed from outside. -/
structure IsQuiet (s : Scene τ) : Prop where
  calls : ∀ answer xs, (∀ x ∈ xs, ∀ e, x ≠ .event e) →
    ∀ p ∈ (s.run answer xs).2, p.2.called = false
  desk : ∀ answer xs, (∀ x ∈ xs, ∀ e, x ≠ .event e) → (∀ x ∈ xs, ¬ x.IsEdit) →
    (s.run answer xs).1.desk = s.desk

/-- While nothing is due, only events matter to a watcher. -/
theorem reaction_of_due_eq_none (hdue : s.watcher.due = none)
    (hx : ∀ e, x ≠ .event e) :
    (s.reaction x).calls = false ∧ (s.reaction x).watcher.due = none := by
  cases x with
  | event e => exact absurd rfl (hx e)
  | advance d => simp [reaction, Watcher.onInstant, hdue]
  | flush => simp [reaction, Watcher.onFlush, Watcher.pending, hdue]
  | cancel => exact ⟨rfl, rfl⟩
  | write p content => exact ⟨rfl, hdue⟩
  | delete p => exact ⟨rfl, hdue⟩
  | rest => exact ⟨rfl, hdue⟩

/-- **Where nothing is due it stays quiet.** -/
theorem isQuiet_of_due_eq_none (hdue : s.watcher.due = none) : s.IsQuiet := by
  constructor
  · intro answer xs hxs
    induction xs generalizing s with
    | nil => simp [run]
    | cons x xs ih =>
        obtain ⟨hcalls, hstays⟩ :=
          reaction_of_due_eq_none hdue (hxs x List.mem_cons_self)
        rw [run_cons]
        intro p hp
        rcases List.mem_cons.mp hp with rfl | hp
        · rw [called_step, hcalls]
        · rw [← watcher_step answer] at hstays
          exact ih hstays (fun y hy => hxs y (List.mem_cons_of_mem x hy)) p hp
  · intro answer xs hxs hedits
    induction xs generalizing s with
    | nil => rfl
    | cons x xs ih =>
        obtain ⟨hcalls, hstays⟩ :=
          reaction_of_due_eq_none hdue (hxs x List.mem_cons_self)
        rw [← called_step answer] at hcalls
        rw [← watcher_step answer] at hstays
        rw [run_cons]
        refine (ih hstays (fun y hy => hxs y (List.mem_cons_of_mem x hy))
          fun y hy => hedits y (List.mem_cons_of_mem x hy)).trans ?_
        rw [desk_step_of_not_called hcalls,
          outside_of_not_isEdit (hedits x List.mem_cons_self)]

end Scene

namespace Loop

variable {o : Order} {d d' : Desk} {p : Path} {script : List (List (SceneStep Binary64))}

/-! ## The parts of the loop -/

/-- What is observed for what was found at a path. -/
def observedAt (p : Path) : Option Node → Path × Bool
  | some .dir => (p, true)
  | some (.file _) => (p.parent, false)
  | none => (p, false)

theorem on_observed (p : Path) (d : Desk) :
    (observed p).on d =
      (((d.storage.find p).map (observedAt p)).mapError .storage, d) := by
  unfold observed
  rw [Work.on_bind, Work.on_ask, Storage.isFile]
  cases hfind : d.storage.find p with
  | error e => rfl
  | ok node =>
      show (Work.ask (·.isDir p) >>= fun recursive => _ : Work (Path × Bool)).on d = _
      rw [Work.on_bind, Work.on_ask, Storage.isDir, hfind]
      cases node with
      | none => rfl
      | some n =>
          cases n with
          | dir => rfl
          | file content => rfl

/-- The loop sleeps before each round and behind the last one. -/
theorem slept_rounds (s : Scene Binary64) (script : List (List (SceneStep Binary64))) :
    (rounds s script).2.length = script.length + 1 ∧
      ∀ e ∈ (rounds s script).2, ∃ meanwhile round, e = .slept meanwhile round := by
  induction script generalizing s with
  | nil =>
      refine ⟨rfl, ?_⟩
      intro e he
      exact ⟨_, _, List.mem_singleton.mp he⟩
  | cons x xs ih =>
      let s₁ := (s.step writeResults (.advance nap)).1
      obtain ⟨hlength, hslept⟩ := ih (round s₁ s₁.desk.storage.tree none x).1
      refine ⟨congrArg (· + 1) hlength, ?_⟩
      intro e he
      rcases List.mem_cons.mp he with rfl | he
      · exact ⟨_, _, rfl⟩
      · exact hslept e he

/-- **How the loop is shut down**, whatever has happened before. -/
theorem isQuiet_shutDown (s : Scene Binary64) :
    (shutDown s).2 = [.stopped false, .joined] ∧
      (shutDown s).1.desk = s.desk ∧ (shutDown s).1.IsQuiet :=
  ⟨rfl, rfl, Scene.isQuiet_of_due_eq_none rfl⟩

/-- The scene that a loop leaves behind. -/
def last (o : Order) (script : List (List (SceneStep Binary64))) (d : Desk) :
    Scene Binary64 :=
  (shutDown (rounds (scene o d) script).1).1

/-- A loop that has observed a directory.  From its start on it has slept until it ended
with a failure, and nothing was pending when the observer was stopped and waited for. -/
structure Observed (o : Order) (script : List (List (SceneStep Binary64))) (d d' : Desk)
    (ending : Failure) (watched : Path × Bool) : Prop where
  run : ∃ slept : List LoopEvent, slept.length = script.length + 1 ∧
    (∀ e ∈ slept, ∃ meanwhile round, e = .slept meanwhile round) ∧
    run o script d ending = (⟨.scheduled watched.1 watched.2
        (d'.storage.tree.changesSince d.storage.tree) ::
      .started :: (slept ++ [.stopped false, .joined]), ending⟩,
      (last o script d').desk)
  quiet : (last o script d').IsQuiet

/-! ## The loop -/

theorem run_of_generate_eq_error {f : Failure}
    (h : (Work.generate o).on d = (.error f, d')) (script) (ending : Failure) :
    run o script d ending = (⟨[], f⟩, d') := by
  have hstart : (start o).on d = (.error f, d') := by
    unfold start
    rw [Work.on_bind, h]
  rw [run, hstart]

theorem on_start_of_ok {rs : List Results} (h : (Work.generate o).on d = (.ok rs, d')) :
    (start o).on d =
      (((d'.storage.find o.path).map (observedAt o.path)).mapError .storage, d') := by
  unfold start
  rw [Work.on_bind_of_ok h, on_observed]

theorem run_of_find_eq_error {rs : List Results} {e : StorageError}
    (h : (Work.generate o).on d = (.ok rs, d'))
    (hfind : d'.storage.find o.path = .error e) (script) (ending : Failure) :
    run o script d ending = (⟨[], .storage e⟩, d') := by
  rw [run, on_start_of_ok h, hfind]
  rfl

/-- **What the loop does** when its first results are there. -/
theorem observed_of_find {rs : List Results} {node : Option Node}
    (h : (Work.generate o).on d = (.ok rs, d'))
    (hfind : d'.storage.find o.path = .ok node) (script) (ending : Failure) :
    Observed o script d d' ending (observedAt o.path node) := by
  obtain ⟨hlength, hslept⟩ := slept_rounds (scene o d') script
  obtain ⟨-, -, hquiet⟩ := isQuiet_shutDown (rounds (scene o d') script).1
  refine ⟨⟨_, hlength, hslept, ?_⟩, hquiet⟩
  rw [run, on_start_of_ok h, hfind]
  rfl

/-- The first run leaves a path without a home directory what it was. -/
theorem observedAt_of_generate {rs : List Results}
    (h : (Work.generate o).on d = (.ok rs, d'))
    (hpath : Path.expandHome? d.storage.home? o.path = some o.path) :
    ∃ before after, d.storage.find o.path = .ok (some before) ∧
      d'.storage.find o.path = .ok (some after) ∧
      observedAt o.path (some after) = observedAt o.path (some before) := by
  obtain ⟨path, top, files, node, hfinds, hnode, -⟩ := Work.of_generate_eq_ok h
  obtain rfl : o.path = path := Option.some.inj (hpath.symm.trans hfinds.expands)
  have hgrown : d.storage.Grown (fun _ => True) d'.storage := by
    have hkept := Work.keeps_generate o d
      (P := Storage.Grown (fun _ => True) d.storage) (.refl _ _) ?_
    · rw [h] at hkept
      exact hkept.2.2
    · intro path top files _ f _ p _ s text hs
      exact hs.trans ((Storage.grown_saveText s p text).mono fun _ _ => trivial)
  cases node with
  | dir => exact ⟨.dir, .dir, hnode, hgrown.find_dir hnode, rfl⟩
  | file content =>
      obtain ⟨content', hafter⟩ :=
        Storage.isFile_iff.mp (hgrown.isFile (Storage.isFile_iff.mpr ⟨content, hnode⟩))
      exact ⟨.file content, .file content', hnode, hafter, rfl⟩

/-- **What the loop does.**  If its first run fails, that is all, and so it is if it cannot
be told what to observe.  Otherwise a directory is observed from then on until the loop
ends, whatever the failure is that leaves its last sleep.  This is the directory at the
path itself, or the one that the file there stands in, unless a home directory has to be
put into the path.  However the loop ends, the watcher is quiet when the observer is
stopped and waited for, provided that no event is announced between its cancellation and
that stop. -/
theorem run_closes (o : Order) (script : List (List (SceneStep Binary64))) (d : Desk)
    (ending : Failure) :
    (∀ f d', (Work.generate o).on d = (.error f, d') →
      run o script d ending = (⟨[], f⟩, d')) ∧
    (∀ rs d', (Work.generate o).on d = (.ok rs, d') →
      (∀ e, d'.storage.find o.path = .error e →
        run o script d ending = (⟨[], .storage e⟩, d')) ∧
      (∀ node, d'.storage.find o.path = .ok node →
        Observed o script d d' ending (observedAt o.path node)) ∧
      (Path.expandHome? d.storage.home? o.path = some o.path →
        ∃ node, d.storage.find o.path = .ok (some node) ∧
          Observed o script d d' ending (observedAt o.path (some node)))) ∧
    ∀ s : Scene Binary64, (shutDown s).2 = [.stopped false, .joined] ∧
      (shutDown s).1.desk = s.desk ∧ (shutDown s).1.IsQuiet := by
  refine ⟨fun f d' h => run_of_generate_eq_error h script ending, ?_, isQuiet_shutDown⟩
  intro rs d' h
  refine ⟨fun e hfind => run_of_find_eq_error h hfind script ending,
    fun node hfind => observed_of_find h hfind script ending, ?_⟩
  intro hpath
  obtain ⟨before, after, hbefore, hafter, hsame⟩ := observedAt_of_generate h hpath
  refine ⟨before, hbefore, ?_⟩
  rw [← hsame]
  exact observed_of_find h hafter script ending

/-- A watch on a directory with a schema file that is announced as changed, the
loop being interrupted before the results are due. -/
theorem run_closes_of_nestedDesk :
    let script : List (List (SceneStep Binary64)) := [[.event { source := "w/a.d2" }]]
    ∃ d', Observed Work.nestedOrder script Work.nestedDesk d' .interrupted
      (.ofString "w", true) := by
  intro script
  obtain ⟨rs, d', hrun, -⟩ := Work.generate_nestedDesk
  obtain ⟨-, hruns, -⟩ :=
    run_closes Work.nestedOrder script Work.nestedDesk .interrupted
  obtain ⟨-, -, hobserved⟩ := hruns rs d' hrun
  obtain ⟨node, hnode, hends⟩ := hobserved (by decide)
  have hdir : Work.nestedDesk.storage.find (.ofString "w") = .ok (some .dir) := by decide
  obtain rfl := Option.some.inj (Except.ok.inj (hnode.symm.trans hdir))
  exact ⟨d', hends⟩

/-- A schema file in the home directory of a desk. -/
def homeDesk : Desk where
  storage.tree := ⟨[(["w"], .dir), (["w", "a.d2"], .file [])]⟩

def homeOrder : Order where
  path := .ofString "~/w"

theorem finds_homeDesk : homeDesk.Finds homeOrder (.ofString "/w") (some (.ofString "/w"))
    [.ofString "/w/a.d2"] :=
  Desk.finds_of_pairwise (by decide) (by decide) (by decide) (by decide)

/-- Results are generated for a directory, and what is observed is not there. -/
theorem observed_of_homeDesk :
    ∃ rs d', (Work.generate homeOrder).on homeDesk = (.ok rs, d') ∧ rs.length = 1 ∧
      homeDesk.storage.isDir (.ofString "/w") = .ok true ∧
      d'.storage.isThere (.ofString "~/w") = .ok false ∧
      ∀ script ending,
        Observed homeOrder script homeDesk d' ending (.ofString "~/w", false) := by
  have hfind : homeDesk.storage.find (.ofString "/w") = .ok (some .dir) := by decide
  have hrun : (((Work.writeAll homeOrder (some (.ofString "/w"))
        [.ofString "/w/a.d2"]).on homeDesk).1.toOption.map List.length = some 1 ∧
      ((Work.writeAll homeOrder (some (.ofString "/w"))
        [.ofString "/w/a.d2"]).on homeDesk).2.storage.find (.ofString "~/w") = .ok none) := by
    decide +kernel
  have hgenerate := Work.generate_of_finds finds_homeDesk hfind
  generalize (Work.writeAll homeOrder (some (.ofString "/w"))
    [.ofString "/w/a.d2"]).on homeDesk = run at hrun hgenerate
  obtain ⟨result, d'⟩ := run
  obtain ⟨hlength, hnone⟩ := hrun
  cases result with
  | error f => cases hlength
  | ok rs =>
      refine ⟨rs, d', hgenerate, Option.some.inj hlength, by decide, ?_, ?_⟩
      · rw [Storage.isThere, hnone]
        rfl
      · intro script ending
        exact observed_of_find hgenerate hnone script ending

end Loop

end TableSketch
