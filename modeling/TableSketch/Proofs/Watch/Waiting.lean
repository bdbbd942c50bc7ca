import TableSketch.Proofs.Number.Sums
import TableSketch.Proofs.Watch.UpToDate

/-!
# Every wait ends

A watcher waits until its clock shows an instant that it has computed before,
and both are rounded.  It could wait in vain if rounding put what is due so far
off that the clock does not get there.  This does not happen.  The invariant is
that nothing is due later than a whole delay from now (`Scene.OnTime`).  It
holds when an event makes results due, and the passing of time keeps it, because
rounded sums keep the order.  So the watcher calls at the latest when its clock
has gone on by the delay without a relevant event
(`Course.exists_call_of_outlasts`).

The clock may go on in steps of any size, and steps that are too small for an
instant do not change it.  But it always gets there in one step
(`Course.outlasts_of_advance`).

A delay need not be finite, and an infinite one is never over: no clock gets to
the instant at which results become due then
(`Course.not_called_of_infinite_delay`).

## Main results

* `Course.onTime_scene` — nothing is due later than a whole delay from now.
* `Course.exists_call_of_outlasts` — a relevant event is followed by a call.
* `Course.not_called_of_infinite_delay` — unless the delay is infinite.
-/

namespace TableSketch

namespace Scene

variable {answer : Order → Work Unit} {s : Scene Binary64}
variable {x : SceneStep Binary64}

/-- Nothing is due later than a whole delay from now. -/
def OnTime (s : Scene Binary64) : Prop :=
  ∀ t, s.watcher.due = some t → 0 ≤ t ∧ t ≤ s.now + s.watcher.delay

theorem now_step (answer : Order → Work Unit) (s : Scene Binary64)
    (x : SceneStep Binary64) : (s.step answer x).1.now = (s.entered x).now := by
  obtain ⟨byTime, heq⟩ := step_eq_react answer s x
  rw [heq, react]
  split
  · rfl
  · rfl

/-- The clock goes on. -/
theorem le_now_step (hnow : s.now.IsTime) (hx : ∀ d, x = .advance d → 0 ≤ d) :
    (s.step answer x).1.now.IsTime ∧ s.now ≤ (s.step answer x).1.now := by
  rw [now_step]
  have hsame := Binary64.le_refl_of_nonneg hnow.nonneg
  cases x with
  | advance d =>
      have hd : 0 ≤ d := hx d rfl
      exact ⟨Binary64.isTime_add hnow.nonneg hd,
        Binary64.le_add_of_nonneg hnow hd⟩
  | event e => exact ⟨hnow, hsame⟩
  | flush => exact ⟨hnow, hsame⟩
  | cancel => exact ⟨hnow, hsame⟩
  | write p content => exact ⟨hnow, hsame⟩
  | delete p => exact ⟨hnow, hsame⟩
  | rest => exact ⟨hnow, hsame⟩

/-- What is due behind a step is due a whole delay from now at the latest. -/
theorem OnTime.step (h : s.OnTime) (hnow : s.now.IsTime)
    (hdelay : 0 ≤ s.watcher.delay) (hd : ¬ s.watcher.delay ≤ 0)
    (hx : ∀ d, x = .advance d → 0 ≤ d) : (s.step answer x).1.OnTime := by
  intro t ht
  have hstep : (s.step answer x).1.now.IsTime ∧
      s.now ≤ (s.step answer x).1.now := le_now_step hnow hx
  obtain ⟨htime, hle⟩ := hstep
  have hsum := (Binary64.isTime_add hnow.nonneg hdelay).nonneg
  have hlater :=
    Binary64.add_le_add_of_nonneg hnow.nonneg htime.nonneg hdelay hle
  obtain ⟨due, hwatcher⟩ := exists_watcher_reaction s x
  have hsame : (s.reaction x).watcher.delay = s.watcher.delay := by
    rw [hwatcher]
  rw [watcher_step] at ht ⊢
  rw [hsame]
  have hbefore : 0 ≤ t ∧ t ≤ s.now + s.watcher.delay := by
    rcases (reaction_due_iff hd x t).mp ht with ⟨-, rfl⟩ | ⟨hdue, -⟩
    · exact ⟨hsum, Binary64.le_refl_of_nonneg hsum⟩
    · exact h t hdue
  exact ⟨hbefore.1, Binary64.le_trans_of_nonneg hbefore.1 hsum
    (Binary64.isTime_add htime.nonneg hdelay).nonneg hbefore.2 hlater⟩

end Scene

namespace Course

variable {c : Course Binary64} {d : Binary64} {i k : Nat}

/-- A watch by the clock: it begins at some time, and time does not run
backwards. -/
structure ByClock (c : Course Binary64) : Prop where
  start : c.start.now.IsTime
  forward : ∀ d, .advance d ∈ c.steps → 0 ≤ d

/-- A step outlasts the wait that an earlier event began: time passes, and from
some step behind the event on the clock has gone on by the whole delay, without
a relevant event.  And nothing has been cancelled since the event. -/
structure Outlasts (c : Course Binary64) (i k : Nat) : Prop where
  quiet : ∃ m, i < m ∧ m ≤ k ∧ (∀ j, m ≤ j → j < k → ¬ c.Relevant j) ∧
    (c.scene m).now + c.start.watcher.delay ≤ (c.scene (k + 1)).now
  passes : ∃ d, c.steps[k]? = some (.advance d)
  kept : ∀ j, i < j → j < k → c.steps[j]? ≠ some .cancel

theorem ByClock.forward_of_step (h : c.ByClock) {x : SceneStep Binary64}
    (hx : c.steps[i]? = some x) : ∀ d, x = .advance d → 0 ≤ d := by
  rintro d rfl
  exact h.forward d (List.mem_of_getElem? hx)

theorem isTime_scene (hclock : c.ByClock) (i : Nat) :
    (c.scene i).now.IsTime := by
  refine scene_induction (P := fun s => Binary64.IsTime s.now) (Nat.zero_le i)
    hclock.start ?_
  intro j x _ _ hx htime
  exact (Scene.le_now_step htime (hclock.forward_of_step hx)).1

/-- **Nothing is due later than a whole delay from now.** -/
theorem onTime_scene (hclock : c.ByClock) (hnew : c.start.watcher.due = none)
    (hdelay : 0 ≤ c.start.watcher.delay) (hd : ¬ c.start.watcher.delay ≤ 0)
    (i : Nat) : (c.scene i).OnTime := by
  refine scene_induction (Nat.zero_le i) ?_ ?_
  · intro t ht
    have hnone : c.start.watcher.due = some t := ht
    rw [hnew] at hnone
    cases hnone
  · intro j x _ _ hx honTime
    exact honTime.step (isTime_scene hclock j) (by rwa [delay_scene])
      (by rwa [delay_scene]) (hclock.forward_of_step hx)

/-- A delay is outlasted by letting it pass at once. -/
theorem outlasts_of_advance (hclock : c.ByClock)
    (hdelay : 0 ≤ c.start.watcher.delay) (hlt : i < k)
    (hx : c.steps[k]? = some (.advance c.start.watcher.delay))
    (hkept : ∀ j, i < j → j < k → c.steps[j]? ≠ some .cancel) :
    c.Outlasts i k := by
  refine ⟨⟨k, hlt, Nat.le_refl k, ?_, ?_⟩, ⟨_, hx⟩, hkept⟩
  · intro j hkj hjk
    omega
  · have hnow := (isTime_scene hclock k).nonneg
    rw [scene_succ hx, Scene.now_step]
    exact Binary64.le_refl_of_nonneg (Binary64.isTime_add hnow hdelay).nonneg

/-- What is due stays so while there is no relevant event, no call and no
cancellation. -/
theorem due_of_no_call {t : Binary64} (hd : ¬ c.start.watcher.delay ≤ 0)
    (hdue : (c.scene i).watcher.due = some t) (hle : i ≤ k)
    (hquiet : ∀ j, i ≤ j → j < k → ¬ c.Relevant j)
    (hkept : ∀ j, i ≤ j → j < k → c.steps[j]? ≠ some .cancel)
    (hnone : ∀ j, i ≤ j → j < k → ¬ c.Called j) :
    (c.scene k).watcher.due = some t := by
  refine scene_induction (P := fun s => s.watcher.due = some t) hle hdue ?_
  intro j x hij hjk hx hsame
  have hcalls := hnone j hij hjk
  rw [called_iff_step hx, Scene.called_step] at hcalls
  have hnotices : ¬ (c.scene j).Notices x := by
    intro hnotices
    exact hquiet j hij hjk ⟨x, hx, hnotices⟩
  have hother : x ≠ .cancel := by
    rintro rfl
    exact hkept j hij hjk hx
  rw [Scene.watcher_step]
  exact Scene.due_of_not_calls (by rwa [delay_scene]) hsame hnotices hcalls
    hother

/-- **Every wait ends.**  A relevant event is followed by a call, or it is a
call itself, at the latest when the wait is outlasted. -/
theorem exists_call_of_outlasts (hclock : c.ByClock)
    (hnew : c.start.watcher.due = none) (hdelay : 0 ≤ c.start.watcher.delay)
    (hrelevant : c.Relevant i) (hlasts : c.Outlasts i k) :
    ∃ j, i ≤ j ∧ j ≤ k ∧ c.Called j := by
  obtain ⟨⟨m, him, hmk, hquiet, hpassed⟩, ⟨d, hx⟩, hkept⟩ := hlasts
  by_cases hd : c.start.watcher.delay ≤ 0
  · exact ⟨i, Nat.le_refl i, by omega,
      (called_iff_of_no_delay hnew hd i).mpr hrelevant⟩
  · by_contra hnone
    have hcalls : ∀ j, i ≤ j → j ≤ k → ¬ c.Called j :=
      fun j hij hjk hcalled => hnone ⟨j, hij, hjk, hcalled⟩
    have hpending : (c.scene m).watcher.pending = true :=
      pending_of_no_call hd hrelevant him
        (fun j hij hjm => hkept j hij (by omega))
        (fun j hij hjm => hcalls j hij (by omega))
    obtain ⟨t, ht⟩ := Option.isSome_iff_exists.mp hpending
    have hdue : (c.scene k).watcher.due = some t :=
      due_of_no_call hd ht hmk hquiet
        (fun j hmj hjk => hkept j (by omega) hjk)
        (fun j hmj hjk => hcalls j (by omega) (by omega))
    obtain ⟨hnonneg, hlate⟩ := onTime_scene hclock hnew hdelay hd m t ht
    rw [delay_scene] at hlate
    have hnow := (isTime_scene hclock m).nonneg
    have hreached : t ≤ (c.scene (k + 1)).now :=
      Binary64.le_trans_of_nonneg hnonneg
        (Binary64.isTime_add hnow hdelay).nonneg
        (isTime_scene hclock (k + 1)).nonneg hlate hpassed
    rw [scene_succ hx, Scene.now_step] at hreached
    have hcalled : c.Called k := by
      rw [called_iff_step hx, Scene.called_step, Scene.reaction_calls_iff]
      exact Or.inr ⟨t, hdue, Or.inr ⟨d, rfl, hreached⟩⟩
    exact hcalls k (by omega) (Nat.le_refl k) hcalled

/-- **An endless wait does not end** as long as the clock shows a finite
instant. -/
theorem not_called_of_infinite_delay (hnew : c.start.watcher.due = none)
    (hdelay : c.start.watcher.delay = .infinite false)
    (hx : c.steps[k]? = some (.advance d))
    (hnow : (c.scene (k + 1)).now.IsFinite) : ¬ c.Called k := by
  have hd : ¬ c.start.watcher.delay ≤ 0 := by
    rw [hdelay]
    exact Bool.false_ne_true
  rw [called_iff hnew hd]
  rintro ⟨i, hanswers⟩
  obtain ⟨-, x, hx', hdelivers⟩ := hanswers.delivers
  obtain rfl := Option.some.inj (hx'.symm.trans hx)
  rcases hdelivers with hflush | ⟨d', hd', hreached⟩
  · cases hflush
  · obtain rfl := SceneStep.advance.inj hd'
    rw [scene_succ hx, Scene.now_step] at hnow
    rw [due, hdelay] at hreached
    exact Binary64.not_add_infinite_le hnow hreached

end Course

end TableSketch
