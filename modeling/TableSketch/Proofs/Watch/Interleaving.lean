import TableSketch.Proofs.Watch.History
import TableSketch.Proofs.Watch.Races

/-!
# One step after the other

The threads of a watcher may mix in any order, and what a `Course` says of a
watcher that takes its steps one after the other is about one of these orders:
every thread comes to its end before the next step is taken.  Here is that
order, step by step.  A flush that finds a timer goes all the way to its call,
and so does the thread of a timer whose instant is reached; a relevant event is
one locked section; the other steps leave the threads alone.

So `Threads` describes the same watcher.  It holds a timer when results are
pending, and as many calls are started as the watcher makes
(`Course.exists_threads`).

## Main results

* `Threads.Shows.event`, `Threads.Shows.call`, `Threads.Shows.flush`,
  `Threads.Shows.cancel` — what the threads do about a step.
* `Course.exists_threads` — every course is one of the interleavings.
-/

namespace TableSketch

namespace Threads

variable {p q : Threads} {t u : Nat} {b : Bool} {n : Nat}

/-- The threads are at rest behind some calls.  A timer is held or not. -/
structure Shows (p : Threads) (held : Bool) (calls : Nat) : Prop where
  reachable : p.Reachable
  quiet : ¬ p.OnItsWay
  held : p.held.isSome = held
  calls : p.happened.count .called = calls

/-! ## Threads at rest -/

theorem stage?_setStage_of_ne (h : t ≠ u) (s : TimerStage) :
    (p.setStage t s).stage? u = p.stage? u := by
  rw [stage?, getElem?_timers_setStage, if_neg h, stage?]

/-- Threads stay at rest if all that happens to them is that they begin to wait
or have started their calls. -/
theorem quiet_of_stages (h : ¬ p.OnItsWay)
    (hstages : ∀ u, q.stage? u = p.stage? u ∨ q.stage? u = some .waiting ∨
      q.stage? u = some .called)
    (hflushes : ∀ s ∈ q.flushes, s ∈ p.flushes ∨ s = .called) :
    ¬ q.OnItsWay := by
  rintro (⟨u, hu⟩ | ⟨s, hs, hne⟩)
  · rcases hstages u with heq | heq | heq
    · rw [heq] at hu
      exact h (Or.inl ⟨u, hu⟩)
    · rw [heq] at hu
      simp at hu
    · rw [heq] at hu
      simp at hu
  · rcases hflushes s hs with hmem | rfl
    · exact h (Or.inr ⟨s, hmem, hne⟩)
    · exact hne rfl

theorem stage?_start (p : Threads) (u : Nat) :
    p.start.stage? u = p.stage? u ∨ p.start.stage? u = some .waiting := by
  rw [stage?, stage?, start, List.concat_eq_append]
  rcases Nat.lt_trichotomy u p.timers.length with hlt | rfl | hlt
  · rw [List.getElem?_append_left hlt]
    exact Or.inl rfl
  · rw [List.getElem?_concat_length]
    exact Or.inr rfl
  · have hlength : (p.timers.concat ⟨.waiting, false⟩).length ≤ u := by
      rw [List.length_concat]
      exact hlt
    rw [← List.concat_eq_append, List.getElem?_eq_none hlength,
      List.getElem?_eq_none (Nat.le_of_lt hlt)]
    exact Or.inl rfl

/-- The timer that is held while the threads are at rest is waiting. -/
theorem Shows.waiting (h : p.Shows b n) (hheld : p.held = some t) :
    p.timers[t]? = some ⟨.waiting, false⟩ := by
  obtain ⟨s, hs, rfl | rfl⟩ := h.reachable.sound.alive t hheld
  · exact hs
  · have hstage : p.stage? t = some .expired := by
      rw [stage?, hs]
      rfl
    exact absurd (Or.inl ⟨t, Or.inl hstage⟩) h.quiet

/-! ## Steps that are taken to their end -/

theorem run?_cons_of_step? {x : ThreadStep} (h : p.step? x = some q)
    (xs : List ThreadStep) : p.run? (x :: xs) = q.run? xs := by
  rw [run?, h, Option.bind_some]

theorem Shows.exists_held (h : p.Shows true n) : ∃ t, p.held = some t :=
  Option.isSome_iff_exists.mp h.held

/-- A relevant event starts a timer. -/
theorem Shows.event (h : p.Shows b n) : p.arm.Shows true n := by
  obtain ⟨p', heq, -, -, -, hhappened⟩ := arm_eq p
  refine ⟨h.reachable.step (x := .event) rfl, ?_, ?_, ?_⟩
  · unfold arm
    cases p.held with
    | none =>
        exact quiet_of_stages h.quiet
          (fun u => (stage?_start p u).imp_right Or.inl) fun _ => Or.inl
    | some t =>
        refine quiet_of_stages h.quiet (fun u => ?_) fun _ => Or.inl
        rw [← stage?_stop p t]
        exact (stage?_start (p.stop t) u).imp_right Or.inl
  · rw [heq]
    rfl
  · have hcount : (Happening.armed p'.timers.length :: p'.happened).count
        .called = p'.happened.count .called :=
      List.count_cons_of_ne (by simp)
    rw [heq]
    show (Happening.armed p'.timers.length :: p'.happened).count .called = n
    rw [hcount, hhappened, h.calls]

/-- The thread of the timer that is held goes all the way to its call. -/
theorem Shows.call (h : p.Shows true n) : ∃ (t : Nat) (q : Threads),
    p.run? [.expire t, .release t, .call t] = some q ∧
      q.Shows false (n + 1) := by
  obtain ⟨t, ht⟩ := h.exists_held
  have hwaiting := h.waiting ht
  have hstage : p.stage? t = some .waiting := by
    rw [stage?, hwaiting]
    rfl
  let p₁ := p.setStage t .expired
  let p₂ := (p₁.giveUp (some t)).setStage t .released
  let q := p₂.startCall.setStage t .called
  have h₁ : p.step? (.expire t) = some p₁ := if_pos hwaiting
  have hstage₁ : p₁.stage? t = some .expired := stage?_setStage_self hstage
  have h₂ : p₁.step? (.release t) = some p₂ := if_pos hstage₁
  have hstage₂ : p₂.stage? t = some .released := by
    have hgiven : (p₁.giveUp (some t)).stage? t = some .expired := hstage₁
    exact stage?_setStage_self hgiven
  have h₃ : p₂.step? (.call t) = some q := if_pos hstage₂
  have hrun : p.run? [.expire t, .release t, .call t] = some q := by
    rw [run?_cons_of_step? h₁, run?_cons_of_step? h₂, run?_cons_of_step? h₃,
      run?]
  refine ⟨t, q, hrun, h.reachable.run hrun, ?_, ?_, ?_⟩
  · refine quiet_of_stages h.quiet (fun u => ?_) fun _ => Or.inl
    by_cases htu : t = u
    · subst htu
      have hcalled : p₂.startCall.stage? t = some .released := hstage₂
      exact Or.inr (Or.inr (stage?_setStage_self hcalled))
    · refine Or.inl ?_
      have hcall : q.stage? u = p₂.startCall.stage? u :=
        stage?_setStage_of_ne htu _
      have hrelease : p₂.stage? u = (p₁.giveUp (some t)).stage? u :=
        stage?_setStage_of_ne htu _
      have hexpire : p₁.stage? u = p.stage? u := stage?_setStage_of_ne htu _
      exact hcall.trans (hrelease.trans hexpire)
  · have hgiven : (p₁.giveUp (some t)).held = none := if_pos ht
    show (p₁.giveUp (some t)).held.isSome = false
    rw [hgiven]
    rfl
  · show (Happening.called :: p.happened).count .called = n + 1
    rw [List.count_cons_self, h.calls]

/-- A flush goes all the way to its call. -/
theorem Shows.flush (h : p.Shows true n) : ∃ (f : Nat) (q : Threads),
    p.run? [.flush, .flushCancel f, .flushRelease f, .flushCall f] = some q ∧
      q.Shows false (n + 1) := by
  obtain ⟨t, ht⟩ := h.exists_held
  let f := p.flushes.length
  let p₁ : Threads :=
    { p with held := none, flushes := p.flushes ++ [.taken t] }
  let p₂ := (p₁.stop t).setFlush f .cancelled
  let p₃ := p₂.setFlush f .released
  let q := p₃.startCall.setFlush f .called
  have h₁ : p.step? .flush = some p₁ := by
    show some p.takeForFlush = some p₁
    rw [takeForFlush, ht]
  have hflushes₂ : p₂.flushes = p.flushes ++ [.cancelled] := by
    show (p.flushes ++ [FlushStage.taken t]).set f .cancelled = _
    simp [f]
  have hflushes₃ : p₃.flushes = p.flushes ++ [.released] := by
    show p₂.flushes.set f .released = _
    rw [hflushes₂]
    simp [f]
  have hflushes : q.flushes = p.flushes ++ [.called] := by
    show p₃.flushes.set f .called = _
    rw [hflushes₃]
    simp [f]
  have h₂ : p₁.step? (.flushCancel f) = some p₂ := by
    have hget : p₁.flushes[f]? = some (.taken t) :=
      List.getElem?_concat_length
    rw [step?, hget]
  have h₃ : p₂.step? (.flushRelease f) = some p₃ := by
    have hget : p₂.flushes[f]? = some .cancelled := by
      rw [hflushes₂]
      exact List.getElem?_concat_length
    rw [step?, if_pos hget, giveUp_none]
  have h₄ : p₃.step? (.flushCall f) = some q := by
    have hget : p₃.flushes[f]? = some .released := by
      rw [hflushes₃]
      exact List.getElem?_concat_length
    exact if_pos hget
  have hrun : p.run? [.flush, .flushCancel f, .flushRelease f, .flushCall f] =
      some q := by
    rw [run?_cons_of_step? h₁, run?_cons_of_step? h₂, run?_cons_of_step? h₃,
      run?_cons_of_step? h₄, run?]
  refine ⟨f, q, hrun, h.reachable.run hrun, ?_, rfl, ?_⟩
  · refine quiet_of_stages h.quiet (fun u => Or.inl (stage?_stop p t u)) ?_
    intro s hs
    rw [hflushes] at hs
    simpa using hs
  · show (Happening.called :: p.happened).count .called = n + 1
    rw [List.count_cons_self, h.calls]

/-- A cancellation goes all the way to its end. -/
theorem Shows.cancel (h : p.Shows b n) : ∃ q : Threads, q.Shows false n := by
  cases hheld : p.held with
  | none => exact ⟨p, h.reachable, h.quiet, by rw [hheld]; rfl, h.calls⟩
  | some t =>
      let c := p.cancels.length
      let p₁ : Threads :=
        { p with
          held := none
          cancels := p.cancels ++ [.taken t]
          happened := .withdrawn t :: p.happened }
      let q := (p₁.stop t).setCancel c .done
      have h₁ : p.step? .cancel = some p₁ := by
        show some p.takeForCancel = some p₁
        rw [takeForCancel, hheld]
      have h₂ : p₁.step? (.cancelTimer c) = some q := by
        have hget : p₁.cancels[c]? = some (.taken t) :=
          List.getElem?_concat_length
        rw [step?, hget]
      refine ⟨q, (h.reachable.step h₁).step h₂, ?_, rfl, ?_⟩
      · exact quiet_of_stages h.quiet (fun u => Or.inl (stage?_stop p t u))
          fun _ => Or.inl
      · have hcount : (Happening.withdrawn t :: p.happened).count .called =
            p.happened.count .called := List.count_cons_of_ne (by simp)
        show (Happening.withdrawn t :: p.happened).count .called = n
        rw [hcount, h.calls]

end Threads

/-! ## Courses -/

variable {τ : Type} [Add τ] [LE τ] [DecidableLE τ] [Zero τ]

/-- **What the threads do about a step** of a watcher with a delay. -/
theorem Threads.Shows.step {p : Threads} {n : Nat} {s : Scene τ}
    (h : p.Shows s.watcher.pending n) (hd : ¬ s.watcher.delay ≤ 0)
    (x : SceneStep τ) :
    ∃ q : Threads, q.Shows (s.reaction x).watcher.pending
      (n + if (s.reaction x).calls then 1 else 0) := by
  cases x with
  | event e =>
      by_cases hrelevant : s.watcher.IsRelevant s.desk.storage e
      · obtain ⟨message, heq⟩ := Watcher.onEvent_of_isRelevant hrelevant s.now
        rw [Scene.reaction, heq, if_neg hd]
        exact ⟨p.arm, h.event⟩
      · obtain ⟨failure, heq⟩ :=
          Watcher.onEvent_of_not_isRelevant hrelevant s.now
        rw [Scene.reaction, heq]
        exact ⟨p, h⟩
  | advance d =>
      rw [Scene.reaction, Watcher.onInstant]
      cases hdue : s.watcher.due with
      | none => exact ⟨p, h⟩
      | some t =>
          by_cases ht : t ≤ s.now + d
          · rw [Watcher.pending, hdue] at h
            simp only [ht, if_true]
            obtain ⟨_, q, -, hq⟩ := h.call
            exact ⟨q, hq⟩
          · simp only [ht, if_false]
            exact ⟨p, h⟩
  | flush =>
      rw [Scene.reaction, Watcher.onFlush]
      cases hpending : s.watcher.pending with
      | false =>
          rw [hpending] at h
          exact ⟨p, by simpa [hpending] using h⟩
      | true =>
          rw [hpending] at h
          obtain ⟨_, q, -, hq⟩ := h.flush
          exact ⟨q, hq⟩
  | cancel => exact h.cancel
  | write q content => exact ⟨p, h⟩
  | delete q => exact ⟨p, h⟩
  | rest => exact ⟨p, h⟩

/-- The threads can be followed from any scene that they show. -/
theorem Threads.Shows.run {p : Threads} {n : Nat} {s : Scene τ}
    (h : p.Shows s.watcher.pending n) (hd : ¬ s.watcher.delay ≤ 0)
    (answer : Order → Work Unit) (xs : List (SceneStep τ)) :
    ∃ q : Threads, q.Shows (s.run answer xs).1.watcher.pending
      (n + (s.run answer xs).2.countP fun y => y.2.called) := by
  induction xs generalizing s p n with
  | nil => exact ⟨p, h⟩
  | cons x xs ih =>
      obtain ⟨q, hq⟩ := h.step hd x
      have hdelay : ¬ (s.step answer x).1.watcher.delay ≤ 0 := by
        obtain ⟨due, hdue⟩ := Scene.exists_watcher_reaction s x
        rw [Scene.watcher_step, hdue]
        exact hd
      rw [← Scene.watcher_step answer, ← Scene.called_step answer] at hq
      obtain ⟨r, hr⟩ := ih hq hdelay
      refine ⟨r, ?_⟩
      rw [Nat.add_right_comm, Nat.add_assoc] at hr
      rw [Scene.run_cons, List.countP_cons]
      exact hr

/-- **Every course is one of the interleavings** of the watcher's threads, in
which each thread comes to its end before the next step. -/
theorem Course.exists_threads (c : Course τ)
    (hnew : c.start.watcher.due = none)
    (hd : ¬ c.start.watcher.delay ≤ 0) :
    ∃ p : Threads, p.Shows c.last.watcher.pending
      ((c.start.run c.answer c.steps).2.countP fun y => y.2.called) := by
  have hstart : Threads.Shows {} c.start.watcher.pending 0 := by
    rw [Watcher.pending, hnew]
    exact ⟨.start, by decide, rfl, rfl⟩
  obtain ⟨p, hp⟩ := hstart.run hd c.answer c.steps
  rw [Nat.zero_add] at hp
  exact ⟨p, hp⟩

end TableSketch
