import Mathlib.Data.List.Basic
import TableSketch.Watch.Threads

/-!
# Races lose nothing

The thread of a timer whose time has come cannot be stopped any more.  So it may
still be running when the next event starts another timer, and when it gives up
the timer that the watcher holds, that must not be the other one.  It only ever
gives up its own (`Threads.held_of_release`).

What keeps a change from being lost is an account of the last event, which every
step leaves true (`Threads.Accounted`): its timer is held, or some thread is on
its way to a call, or a call was started behind the event, or a cancellation
took the timer.  It does not matter which thread is on its way: the call will be
started behind the event in any case.

A timer that is held is alive: nobody has cancelled it, and its thread has not
been in its locked section (`Threads.Sound`).  So what is pending can still come
about.

## Main results

* `Threads.Reachable.sound`, `Threads.Reachable.accounted` — the invariants.
* `Threads.nothing_lost` — races lose nothing.
-/

namespace TableSketch

namespace Threads

variable {p q : Threads} {x : ThreadStep} {t u : Nat}

/-! ## Parts of the state -/

@[simp] theorem held_setStage (p : Threads) (t : Nat) (s : TimerStage) :
    (p.setStage t s).held = p.held := rfl

@[simp] theorem length_timers_setStage (p : Threads) (t : Nat)
    (s : TimerStage) :
    (p.setStage t s).timers.length = p.timers.length := by
  simp [setStage]

@[simp] theorem length_timers_stop (p : Threads) (t : Nat) :
    (p.stop t).timers.length = p.timers.length := by
  simp [stop]

theorem getElem?_timers_setStage (p : Threads) (t u : Nat) (s : TimerStage) :
    (p.setStage t s).timers[u]? =
      if t = u then p.timers[u]?.map fun x => { x with stage := s }
      else p.timers[u]? := by
  rw [setStage, List.getElem?_modify]
  split
  · rfl
  · simp

theorem getElem?_timers_stop (p : Threads) (t u : Nat) :
    (p.stop t).timers[u]? =
      if t = u then p.timers[u]?.map fun x => { x with cancelled := true }
      else p.timers[u]? := by
  rw [stop, List.getElem?_modify]
  split
  · rfl
  · simp

theorem stage?_setStage_self {s s' : TimerStage} (h : p.stage? t = some s) :
    (p.setStage t s').stage? t = some s' := by
  rw [stage?, Option.map_eq_some_iff] at h
  obtain ⟨y, hy, -⟩ := h
  rw [stage?, getElem?_timers_setStage, if_pos rfl, hy]
  rfl

/-- Cancelling a timer moves no thread. -/
theorem stage?_stop (p : Threads) (t u : Nat) :
    (p.stop t).stage? u = p.stage? u := by
  rw [stage?, getElem?_timers_stop, stage?]
  split
  · rw [Option.map_map]
    rfl
  · rfl

/-- A new timer is started behind the others, cancelled or not. -/
theorem arm_eq (p : Threads) : ∃ p' : Threads, p.arm = p'.start ∧
    p'.timers.length = p.timers.length ∧ p'.flushes = p.flushes ∧
    p'.cancels = p.cancels ∧ p'.happened = p.happened := by
  cases hheld : p.held with
  | none => exact ⟨p, by rw [arm, hheld], rfl, rfl, rfl, rfl⟩
  | some t =>
      exact ⟨p.stop t, by rw [arm, hheld], length_timers_stop p t, rfl, rfl,
        rfl⟩

theorem length_timers_start (p : Threads) :
    p.start.timers.length = p.timers.length + 1 := by
  simp [start]

/-- The new timer waits. -/
theorem getElem?_timers_start (p : Threads) :
    p.start.timers[p.timers.length]? = some ⟨.waiting, false⟩ := by
  simp [start]

theorem giveUp_none (p : Threads) : p.giveUp none = p := by
  have hheld : (if p.held = none then none else p.held) = p.held := by
    split
    · next h => exact h.symm
    · rfl
  rw [giveUp, hheld]

theorem held_giveUp_of_ne (h : p.held ≠ some t) :
    (p.giveUp (some t)).held = p.held :=
  if_neg h

/-- What is held after somebody gave up, was held before and is not his. -/
theorem held_of_held_giveUp (h : (p.giveUp (some t)).held = some u) :
    p.held = some u ∧ u ≠ t := by
  by_cases hheld : p.held = some t
  · rw [giveUp] at h
    simp [hheld] at h
  · rw [held_giveUp_of_ne hheld] at h
    refine ⟨h, ?_⟩
    rintro rfl
    exact hheld h

/-! ## Steps that need something -/

theorem of_step?_expire (h : p.step? (.expire t) = some q) :
    p.timers[t]? = some ⟨.waiting, false⟩ ∧ q = p.setStage t .expired := by
  rw [step?, Option.ite_none_right_eq_some, Option.some.injEq] at h
  exact ⟨h.1, h.2.symm⟩

theorem of_step?_release (h : p.step? (.release t) = some q) :
    p.stage? t = some .expired ∧
      q = (p.giveUp (some t)).setStage t .released := by
  rw [step?, Option.ite_none_right_eq_some, Option.some.injEq] at h
  exact ⟨h.1, h.2.symm⟩

theorem of_step?_call (h : p.step? (.call t) = some q) :
    p.stage? t = some .released ∧ q = p.startCall.setStage t .called := by
  rw [step?, Option.ite_none_right_eq_some, Option.some.injEq] at h
  exact ⟨h.1, h.2.symm⟩

theorem of_step?_flushCancel {f : Nat}
    (h : p.step? (.flushCancel f) = some q) :
    ∃ t, p.flushes[f]? = some (.taken t) ∧
      q = (p.stop t).setFlush f .cancelled := by
  rw [step?] at h
  split at h
  · next t ht => exact ⟨t, ht, (Option.some.inj h).symm⟩
  · cases h

theorem of_step?_flushRelease {f : Nat}
    (h : p.step? (.flushRelease f) = some q) :
    p.flushes[f]? = some .cancelled ∧ q = p.setFlush f .released := by
  rw [step?, Option.ite_none_right_eq_some, Option.some.injEq,
    giveUp_none] at h
  exact ⟨h.1, h.2.symm⟩

theorem of_step?_flushCall {f : Nat} (h : p.step? (.flushCall f) = some q) :
    p.flushes[f]? = some .released ∧ q = p.startCall.setFlush f .called := by
  rw [step?, Option.ite_none_right_eq_some, Option.some.injEq] at h
  exact ⟨h.1, h.2.symm⟩

theorem of_step?_cancelTimer {i : Nat}
    (h : p.step? (.cancelTimer i) = some q) :
    ∃ t, p.cancels[i]? = some (.taken t) ∧
      q = (p.stop t).setCancel i .done := by
  rw [step?] at h
  split at h
  · next t ht => exact ⟨t, ht, (Option.some.inj h).symm⟩
  · cases h

/-- **The thread of a timer gives up no other timer.** -/
theorem held_of_release (h : p.step? (.release t) = some q)
    (hheld : p.held = some u) (hother : u ≠ t) : q.held = some u := by
  obtain ⟨-, rfl⟩ := of_step?_release h
  have hne : p.held ≠ some t := by
    rw [hheld]
    exact fun heq => hother (Option.some.inj heq)
  rw [held_setStage, held_giveUp_of_ne hne, hheld]

/-! ## Sound states -/

/-- The thread of a timer can still come to a call: nobody has cancelled the
timer, and its thread has not been in its locked section. -/
def IsAlive (p : Threads) (t : Nat) : Prop :=
  ∃ s, p.timers[t]? = some ⟨s, false⟩ ∧ (s = .waiting ∨ s = .expired)

/-- A timer has been taken from the watcher, which does not hold it again. -/
def IsTaken (p : Threads) (t : Nat) : Prop :=
  t < p.timers.length ∧ p.held ≠ some t

/-- What is always true of the timers. -/
structure Sound (p : Threads) : Prop where
  /-- The timer that is held is the one that was started last. -/
  last : ∀ t, p.held = some t → t + 1 = p.timers.length
  alive : ∀ t, p.held = some t → p.IsAlive t
  flushes : ∀ t, .taken t ∈ p.flushes → p.IsTaken t
  cancels : ∀ t, .taken t ∈ p.cancels → p.IsTaken t

theorem IsAlive.setStage (h : p.IsAlive u) (hne : t ≠ u) (s : TimerStage) :
    (p.setStage t s).IsAlive u := by
  obtain ⟨s', hs', hstage⟩ := h
  exact ⟨s', by rwa [getElem?_timers_setStage, if_neg hne], hstage⟩

theorem IsAlive.stop (h : p.IsAlive u) (hne : t ≠ u) :
    (p.stop t).IsAlive u := by
  obtain ⟨s', hs', hstage⟩ := h
  exact ⟨s', by rwa [getElem?_timers_stop, if_neg hne], hstage⟩

theorem IsTaken.setStage (h : p.IsTaken u) (t : Nat) (s : TimerStage) :
    (p.setStage t s).IsTaken u := by
  refine ⟨?_, h.2⟩
  rw [length_timers_setStage]
  exact h.1

theorem IsTaken.stop (h : p.IsTaken u) (t : Nat) : (p.stop t).IsTaken u := by
  refine ⟨?_, h.2⟩
  rw [length_timers_stop]
  exact h.1

theorem IsTaken.giveUp (h : p.IsTaken u) (t : Nat) :
    (p.giveUp (some t)).IsTaken u :=
  ⟨h.1, fun hheld => h.2 (held_of_held_giveUp hheld).1⟩

theorem IsAlive.stage_ne (h : p.IsAlive t) : p.stage? t ≠ some .released := by
  obtain ⟨s, hs, hstage⟩ := h
  rw [stage?, hs]
  rcases hstage with rfl | rfl
  · decide
  · decide

theorem sound_start : Sound {} where
  last _ h := by cases h
  alive _ h := by cases h
  flushes _ h := by cases h
  cancels _ h := by cases h

namespace Sound

theorem arm (h : p.Sound) : p.arm.Sound := by
  obtain ⟨p', heq, hlength, hflushes, hcancels, -⟩ := arm_eq p
  rw [heq]
  -- Timers that were taken have smaller numbers than the new one.
  have htaken : ∀ {t}, p.IsTaken t → p'.start.IsTaken t := by
    intro t ht
    refine ⟨?_, ?_⟩
    · rw [length_timers_start, hlength]
      exact Nat.lt_succ_of_lt ht.1
    · intro hheld
      have hnew : p'.timers.length = t := Option.some.inj hheld
      have hlt := ht.1
      omega
  refine ⟨fun t ht => ?_, fun t ht => ?_, fun t ht => ?_, fun t ht => ?_⟩
  · rw [length_timers_start, ← Option.some.inj ht]
  · rw [← Option.some.inj ht]
    exact ⟨.waiting, getElem?_timers_start p', Or.inl rfl⟩
  · exact htaken (h.flushes t (hflushes ▸ ht))
  · exact htaken (h.cancels t (hcancels ▸ ht))

/-- The thread of a timer may move on if the timer is not held, or is alive
afterwards. -/
theorem setStage (h : p.Sound) {s : TimerStage}
    (halive : p.held = some t → (p.setStage t s).IsAlive t) :
    (p.setStage t s).Sound := by
  refine ⟨fun u hu => ?_, fun u hu => ?_,
    fun u hu => (h.flushes u hu).setStage t s,
    fun u hu => (h.cancels u hu).setStage t s⟩
  · rw [length_timers_setStage]
    exact h.last u hu
  · by_cases htu : t = u
    · subst htu
      exact halive hu
    · exact (h.alive u hu).setStage htu s

theorem giveUp (h : p.Sound) (t : Nat) : (p.giveUp (some t)).Sound :=
  ⟨fun u hu => h.last u (held_of_held_giveUp hu).1,
    fun u hu => h.alive u (held_of_held_giveUp hu).1,
    fun u hu => (h.flushes u hu).giveUp t,
    fun u hu => (h.cancels u hu).giveUp t⟩

theorem startCall (h : p.Sound) : p.startCall.Sound :=
  ⟨h.last, h.alive, h.flushes, h.cancels⟩

theorem expire (h : p.Sound)
    (hwaiting : p.timers[t]? = some ⟨.waiting, false⟩) :
    (p.setStage t .expired).Sound := by
  refine h.setStage fun _ => ⟨.expired, ?_, Or.inr rfl⟩
  rw [getElem?_timers_setStage, if_pos rfl, hwaiting]
  rfl

theorem release (h : p.Sound) (t : Nat) :
    ((p.giveUp (some t)).setStage t .released).Sound := by
  refine (h.giveUp t).setStage fun hheld => ?_
  exact absurd rfl (held_of_held_giveUp hheld).2

theorem call (h : p.Sound) (hreleased : p.stage? t = some .released) :
    (p.startCall.setStage t .called).Sound := by
  refine h.startCall.setStage fun hheld => ?_
  exact absurd hreleased (h.alive t hheld).stage_ne

theorem takeForFlush (h : p.Sound) : p.takeForFlush.Sound := by
  unfold Threads.takeForFlush
  cases hheld : p.held with
  | none => exact h
  | some t =>
      refine ⟨nofun, nofun, fun u hu => ?_,
        fun u hu => ⟨(h.cancels u hu).1, nofun⟩⟩
      refine ⟨?_, nofun⟩
      rcases List.mem_append.mp hu with hu | hu
      · exact (h.flushes u hu).1
      · cases List.mem_singleton.mp hu
        exact Nat.lt_of_succ_le (Nat.le_of_eq (h.last t hheld))

theorem takeForCancel (h : p.Sound) : p.takeForCancel.Sound := by
  unfold Threads.takeForCancel
  cases hheld : p.held with
  | none => exact h
  | some t =>
      refine ⟨nofun, nofun, fun u hu => ⟨(h.flushes u hu).1, nofun⟩,
        fun u hu => ?_⟩
      refine ⟨?_, nofun⟩
      rcases List.mem_append.mp hu with hu | hu
      · exact (h.cancels u hu).1
      · cases List.mem_singleton.mp hu
        exact Nat.lt_of_succ_le (Nat.le_of_eq (h.last t hheld))

/-- Cancelling a timer that was taken harms no timer that is held. -/
theorem stop (h : p.Sound) (htaken : p.IsTaken t) : (p.stop t).Sound := by
  refine ⟨fun u hu => ?_, fun u hu => ?_, fun u hu => (h.flushes u hu).stop t,
    fun u hu => (h.cancels u hu).stop t⟩
  · rw [length_timers_stop]
    exact h.last u hu
  · have hne : t ≠ u := by
      rintro rfl
      exact htaken.2 hu
    exact (h.alive u hu).stop hne

theorem setFlush (h : p.Sound) {s : FlushStage} (hs : ∀ t, s ≠ .taken t)
    (f : Nat) : (p.setFlush f s).Sound := by
  refine ⟨h.last, h.alive, fun u hu => ?_, h.cancels⟩
  rcases List.mem_or_eq_of_mem_set hu with hu | hu
  · exact h.flushes u hu
  · exact absurd hu.symm (hs u)

theorem setCancel (h : p.Sound) (c : Nat) : (p.setCancel c .done).Sound := by
  refine ⟨h.last, h.alive, h.flushes, fun u hu => ?_⟩
  rcases List.mem_or_eq_of_mem_set hu with hu | hu
  · exact h.cancels u hu
  · cases hu

/-- Every step leaves the timers sound. -/
theorem step (h : p.Sound) (hstep : p.step? x = some q) : q.Sound := by
  cases x with
  | event =>
      obtain rfl := Option.some.inj hstep
      exact h.arm
  | expire t =>
      obtain ⟨hwaiting, rfl⟩ := of_step?_expire hstep
      exact h.expire hwaiting
  | release t =>
      obtain ⟨-, rfl⟩ := of_step?_release hstep
      exact h.release t
  | call t =>
      obtain ⟨hreleased, rfl⟩ := of_step?_call hstep
      exact h.call hreleased
  | flush =>
      obtain rfl := Option.some.inj hstep
      exact h.takeForFlush
  | flushCancel f =>
      obtain ⟨t, ht, rfl⟩ := of_step?_flushCancel hstep
      have htaken := h.flushes t (List.mem_of_getElem? ht)
      exact (h.stop htaken).setFlush (by nofun) f
  | flushRelease f =>
      obtain ⟨-, rfl⟩ := of_step?_flushRelease hstep
      exact h.setFlush (by nofun) f
  | flushCall f =>
      obtain ⟨-, rfl⟩ := of_step?_flushCall hstep
      exact h.startCall.setFlush (by nofun) f
  | cancel =>
      obtain rfl := Option.some.inj hstep
      exact h.takeForCancel
  | cancelTimer c =>
      obtain ⟨t, ht, rfl⟩ := of_step?_cancelTimer hstep
      exact (h.stop (h.cancels t (List.mem_of_getElem? ht))).setCancel c

end Sound

/-! ## The account of the last event -/

/-- What has become of the last event.  `newer` is what happened behind it. -/
structure AccountOf (p : Threads) (t : Nat) (newer older : List Happening) :
    Prop where
  happened : p.happened = newer ++ .armed t :: older
  last : ∀ u, .armed u ∉ newer
  number : t + 1 = p.timers.length
  fate : p.held = some t ∨ p.OnItsWay ∨ .called ∈ newer ∨ .withdrawn t ∈ newer

/-- Either there was no event, or the last one is accounted for. -/
def Accounted (p : Threads) : Prop :=
  (∀ t, .armed t ∉ p.happened) ∨ ∃ t newer older, p.AccountOf t newer older

theorem accounted_start : Accounted {} :=
  Or.inl fun _ => List.not_mem_nil

/-- A step without an event adds to what happened behind the last one. -/
theorem Accounted.extend (h : p.Accounted) (more : List Happening)
    (hhappened : q.happened = more ++ p.happened)
    (hmore : ∀ u, .armed u ∉ more)
    (hlength : q.timers.length = p.timers.length)
    (hfate : ∀ t newer older, p.AccountOf t newer older →
      q.held = some t ∨ q.OnItsWay ∨ .called ∈ more ++ newer ∨
        .withdrawn t ∈ more ++ newer) : q.Accounted := by
  rcases h with hnone | ⟨t, newer, older, haccount⟩
  · refine Or.inl fun t ht => ?_
    rw [hhappened] at ht
    rcases List.mem_append.mp ht with ht | ht
    · exact hmore t ht
    · exact hnone t ht
  · refine Or.inr ⟨t, more ++ newer, older, ?_, ?_, ?_,
      hfate t newer older haccount⟩
    · rw [hhappened, haccount.happened, List.append_assoc]
    · intro u hu
      rcases List.mem_append.mp hu with hu | hu
      · exact hmore u hu
      · exact haccount.last u hu
    · rw [hlength]
      exact haccount.number

/-- A thread on its way will call behind the last event. -/
theorem Accounted.of_onItsWay (h : p.Accounted) (hway : q.OnItsWay)
    (hhappened : q.happened = p.happened)
    (hlength : q.timers.length = p.timers.length) : q.Accounted :=
  h.extend [] hhappened (fun _ => List.not_mem_nil) hlength
    fun _ _ _ _ => Or.inr (Or.inl hway)

theorem Accounted.of_called (h : p.Accounted)
    (hhappened : q.happened = .called :: p.happened)
    (hlength : q.timers.length = p.timers.length) : q.Accounted :=
  h.extend [.called] hhappened (fun _ => by simp) hlength
    fun _ _ _ _ => Or.inr (Or.inr (Or.inl (by simp)))

theorem onItsWay_setStage {s s' : TimerStage} (h : p.stage? t = some s)
    (hs : s' = .expired ∨ s' = .released) : (p.setStage t s').OnItsWay := by
  have hstage : (p.setStage t s').stage? t = some s' :=
    stage?_setStage_self h
  rcases hs with rfl | rfl
  · exact Or.inl ⟨t, Or.inl hstage⟩
  · exact Or.inl ⟨t, Or.inr hstage⟩

theorem onItsWay_setFlush {f : Nat} {s s' : FlushStage}
    (h : p.flushes[f]? = some s) (hs : s' ≠ .called) :
    (p.setFlush f s').OnItsWay := by
  obtain ⟨hf, -⟩ := List.getElem?_eq_some_iff.mp h
  have hget : (p.flushes.set f s')[f]? = some s' := List.getElem?_set_self hf
  exact Or.inr ⟨s', List.mem_of_getElem? hget, hs⟩

theorem OnItsWay.stop (h : p.OnItsWay) (t : Nat) : (p.stop t).OnItsWay := by
  rcases h with ⟨u, hu⟩ | hflush
  · exact Or.inl ⟨u, by rwa [stage?_stop]⟩
  · exact Or.inr hflush

/-- The timer of a new event is held. -/
theorem accounted_arm (p : Threads) : p.arm.Accounted := by
  obtain ⟨p', heq, -⟩ := arm_eq p
  rw [heq]
  refine Or.inr ⟨p'.timers.length, [], p'.happened, rfl,
    fun _ => List.not_mem_nil, ?_, Or.inl rfl⟩
  rw [length_timers_start]

theorem Accounted.takeForFlush (h : p.Accounted) :
    p.takeForFlush.Accounted := by
  unfold Threads.takeForFlush
  cases p.held with
  | none => exact h
  | some t =>
      have hmem : FlushStage.taken t ∈ p.flushes ++ [.taken t] := by simp
      exact h.of_onItsWay (Or.inr ⟨.taken t, hmem, nofun⟩) rfl rfl

/-- A cancellation takes the timer of the last event, if it takes one. -/
theorem Accounted.takeForCancel (h : p.Accounted) (hsound : p.Sound) :
    p.takeForCancel.Accounted := by
  unfold Threads.takeForCancel
  cases hheld : p.held with
  | none => exact h
  | some t =>
      refine h.extend [.withdrawn t] rfl (fun _ => by simp) rfl ?_
      intro u newer older haccount
      have hnumber := haccount.number
      have hlast := hsound.last t hheld
      have hsame : u = t := by omega
      subst hsame
      exact Or.inr (Or.inr (Or.inr (by simp)))

theorem Accounted.cancelTimer (h : p.Accounted) (t c : Nat) :
    ((p.stop t).setCancel c .done).Accounted := by
  refine h.extend [] rfl (fun _ => List.not_mem_nil)
    (length_timers_stop p t) ?_
  intro u newer older haccount
  rcases haccount.fate with hheld | hway | hdone
  · exact Or.inl hheld
  · exact Or.inr (Or.inl (hway.stop t))
  · exact Or.inr (Or.inr hdone)

/-- Every step leaves the last event accounted for. -/
theorem Accounted.step (h : p.Accounted) (hsound : p.Sound)
    (hstep : p.step? x = some q) : q.Accounted := by
  cases x with
  | event =>
      obtain rfl := Option.some.inj hstep
      exact accounted_arm p
  | expire t =>
      obtain ⟨hwaiting, rfl⟩ := of_step?_expire hstep
      have hstage : p.stage? t = some .waiting := by
        rw [stage?, hwaiting]
        rfl
      exact h.of_onItsWay (onItsWay_setStage hstage (Or.inl rfl)) rfl
        (length_timers_setStage p t _)
  | release t =>
      obtain ⟨hexpired, rfl⟩ := of_step?_release hstep
      have hstage : (p.giveUp (some t)).stage? t = some .expired := hexpired
      exact h.of_onItsWay (onItsWay_setStage hstage (Or.inr rfl)) rfl
        (length_timers_setStage _ t _)
  | call t =>
      obtain ⟨-, rfl⟩ := of_step?_call hstep
      exact h.of_called rfl (length_timers_setStage _ t _)
  | flush =>
      obtain rfl := Option.some.inj hstep
      exact h.takeForFlush
  | flushCancel f =>
      obtain ⟨t, ht, rfl⟩ := of_step?_flushCancel hstep
      have hget : (p.stop t).flushes[f]? = some (.taken t) := ht
      exact h.of_onItsWay (onItsWay_setFlush hget nofun) rfl
        (length_timers_stop p t)
  | flushRelease f =>
      obtain ⟨hget, rfl⟩ := of_step?_flushRelease hstep
      exact h.of_onItsWay (onItsWay_setFlush hget nofun) rfl rfl
  | flushCall f =>
      obtain ⟨-, rfl⟩ := of_step?_flushCall hstep
      exact h.of_called rfl rfl
  | cancel =>
      obtain rfl := Option.some.inj hstep
      exact h.takeForCancel hsound
  | cancelTimer c =>
      obtain ⟨t, -, rfl⟩ := of_step?_cancelTimer hstep
      exact h.cancelTimer t c

/-! ## Reachable states -/

theorem Reachable.sound (h : p.Reachable) : p.Sound := by
  induction h with
  | start => exact sound_start
  | step _ hstep ih => exact ih.step hstep

theorem Reachable.accounted (h : p.Reachable) : p.Accounted := by
  induction h with
  | start => exact accounted_start
  | step hp hstep ih => exact ih.step hp.sound hstep

/-- **Races lose nothing.**  The thread of a timer never gives up another timer
that the watcher holds instead.  Once the watcher holds no timer and no thread
is on its way to a call any more, there was no event, or a call was started
behind the last one, or a cancellation took its timer. -/
theorem nothing_lost (h : p.Reachable) :
    (∀ t u q, p.step? (.release t) = some q → p.held = some u → u ≠ t →
      q.held = some u) ∧
    (¬ p.OnItsWay → p.held = none →
      (∀ t, .armed t ∉ p.happened) ∨
        ∃ t newer older, p.happened = newer ++ .armed t :: older ∧
          (∀ u, .armed u ∉ newer) ∧
          (.called ∈ newer ∨ .withdrawn t ∈ newer)) := by
  refine ⟨fun t u q => held_of_release, fun hquiet hheld => ?_⟩
  rcases h.accounted with hnone | ⟨t, newer, older, haccount⟩
  · exact Or.inl hnone
  · refine Or.inr ⟨t, newer, older, haccount.happened, haccount.last, ?_⟩
    rcases haccount.fate with hheld' | hway | hdone
    · rw [hheld] at hheld'
      cases hheld'
    · exact absurd hway hquiet
    · exact hdone

/-! ### A late timer -/

theorem Reachable.run (h : p.Reachable) {xs : List ThreadStep}
    (hrun : p.run? xs = some q) : q.Reachable := by
  induction xs generalizing p with
  | nil =>
      cases hrun
      exact h
  | cons x xs ih =>
      obtain ⟨p', hstep, hrest⟩ := Option.bind_eq_some_iff.mp hrun
      exact ih (h.step hstep) hrest

theorem onItsWay_iff : p.OnItsWay ↔
    (∃ y ∈ p.timers, y.stage = .expired ∨ y.stage = .released) ∨
      ∃ s ∈ p.flushes, s ≠ .called := by
  refine or_congr_left ?_
  simp only [stage?, Option.map_eq_some_iff, List.mem_iff_getElem?]
  constructor
  · rintro ⟨t, ⟨y, hy, hstage⟩ | ⟨y, hy, hstage⟩⟩
    · exact ⟨y, ⟨t, hy⟩, Or.inl hstage⟩
    · exact ⟨y, ⟨t, hy⟩, Or.inr hstage⟩
  · rintro ⟨y, ⟨t, hy⟩, hstage | hstage⟩
    · exact ⟨t, Or.inl ⟨y, hy, hstage⟩⟩
    · exact ⟨t, Or.inr ⟨y, hy, hstage⟩⟩

instance (p : Threads) : Decidable p.OnItsWay :=
  decidable_of_iff _ onItsWay_iff.symm

/-- The first timer is late: its time has come when the second event comes. -/
def lateTimer : List ThreadStep :=
  [.event, .expire 0, .event]

/-- The second timer is late as well when it is cancelled, so both call. -/
def lateCancel : List ThreadStep :=
  [.release 0, .call 0, .expire 1, .cancel, .release 1, .cancelTimer 0,
    .call 1]

/-- The late timer leaves the second one alone, and in the end the second event
is accounted for. -/
theorem nothing_lost_of_lateTimer :
    ∃ p q r : Threads, run? {} lateTimer = some p ∧
      p.step? (.release 0) = some q ∧ q.held = some 1 ∧
      p.run? lateCancel = some r ∧ ¬ r.OnItsWay ∧ r.held = none ∧
      ∃ t newer older, r.happened = newer ++ .armed t :: older ∧
        (∀ u, .armed u ∉ newer) ∧
        (.called ∈ newer ∨ .withdrawn t ∈ newer) := by
  let p : Threads := ⟨[⟨.expired, true⟩, ⟨.waiting, false⟩], some 1, [], [],
    [.armed 1, .armed 0]⟩
  let q : Threads := ⟨[⟨.released, true⟩, ⟨.waiting, false⟩], some 1, [], [],
    [.armed 1, .armed 0]⟩
  let r : Threads := ⟨[⟨.called, true⟩, ⟨.called, true⟩], none, [], [.done],
    [.called, .withdrawn 1, .called, .armed 1, .armed 0]⟩
  have hp : run? {} lateTimer = some p := by decide
  have hq : p.step? (.release 0) = some q := by decide
  have hr : p.run? lateCancel = some r := by decide
  have hreachable : p.Reachable := Reachable.start.run hp
  have hquiet : ¬ r.OnItsWay := by decide
  refine ⟨p, q, r, hp, hq,
    (nothing_lost hreachable).1 0 1 q hq rfl (by decide), hr, hquiet, rfl, ?_⟩
  rcases (nothing_lost (hreachable.run hr)).2 hquiet rfl with hnone | hdone
  · exact absurd (by decide) (hnone 1)
  · exact hdone

end Threads

end TableSketch
