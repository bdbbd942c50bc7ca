import Mathlib.Data.Nat.Init
import TableSketch.Proofs.Watch.Reactions

/-!
# The history of a watch

When does a watcher call?  The answer is a matter of the steps alone.  Every
relevant event begins a wait, which goes on until a step ends it: another
relevant event, a cancellation, a flush, or the first passing of time that
reaches the instant of the event plus the delay.  The watcher calls when a wait
ends with one of the last two, and at no other step (`Course.called_iff`).  A
step answers one event at most, and an event is answered by one step at most.

The steps of a watch are told apart by their places, because the same step does
different things at different times: whether an event is relevant depends on
the files that are there at that moment.  `Course.scene` is the scene in front
of a step.

The invariant that carries all of this says what the watcher knows in front of
a step (`Course.due_scene_iff`): results are due at an instant if and only if
some event made them due then and nothing has ended the wait for them yet.  It
needs no law of instants, so it holds of exact numbers and of rounded ones
alike, and it does not look at what a call does, so it holds of failing calls.

## Main results

* `Course.due_scene_iff` — what is due in front of a step.
* `Course.called_iff`, `Course.called_iff_of_no_delay` — which steps call.
* `Course.history` — the whole history, with what a call gets.
-/

namespace TableSketch

namespace Scene

variable {τ : Type} [Add τ] [LE τ] [DecidableLE τ] [Zero τ]

theorem run_cons (answer : Order → Work Unit) (s : Scene τ)
    (x : SceneStep τ) (xs : List (SceneStep τ)) :
    s.run answer (x :: xs) =
      (((s.step answer x).1.run answer xs).1,
        s.step answer x :: ((s.step answer x).1.run answer xs).2) := rfl

theorem run_append (answer : Order → Work Unit) (s : Scene τ)
    (xs ys : List (SceneStep τ)) :
    s.run answer (xs ++ ys) =
      (((s.run answer xs).1.run answer ys).1,
        (s.run answer xs).2 ++ ((s.run answer xs).1.run answer ys).2) := by
  induction xs generalizing s with
  | nil => rfl
  | cons x xs ih =>
      rw [List.cons_append, run_cons, ih, run_cons]
      rfl

theorem length_run (answer : Order → Work Unit) (s : Scene τ)
    (xs : List (SceneStep τ)) :
    (s.run answer xs).2.length = xs.length := by
  induction xs generalizing s with
  | nil => rfl
  | cons x xs ih =>
      rw [run_cons, List.length_cons, ih, List.length_cons]

end Scene

/-- A watcher that is followed over some steps. -/
structure Course (τ : Type) where
  /-- What the watcher's calls do. -/
  answer : Order → Work Unit
  start : Scene τ
  steps : List (SceneStep τ)

namespace Course

variable {τ : Type} [Add τ] [LE τ] [DecidableLE τ] [Zero τ]
variable {c : Course τ} {x : SceneStep τ} {t : τ} {i j k : Nat}

/-! ## Scenes and reports -/

/-- The scene in front of a step. -/
def scene (c : Course τ) (i : Nat) : Scene τ :=
  (c.start.run c.answer (c.steps.take i)).1

/-- The scene behind the last step. -/
def last (c : Course τ) : Scene τ :=
  (c.start.run c.answer c.steps).1

/-- The report on a step. -/
def report? (c : Course τ) (i : Nat) : Option SceneReport :=
  (c.start.run c.answer c.steps).2[i]?.map Prod.snd

/-- The watcher calls at a step. -/
def Called (c : Course τ) (i : Nat) : Prop :=
  ∃ r, c.report? i = some r ∧ r.called = true

theorem called_iff_map_report : c.Called i ↔
    (c.report? i).map SceneReport.called = some true := by
  rw [Called, Option.map_eq_some_iff]

instance (c : Course τ) (i : Nat) : Decidable (c.Called i) :=
  decidable_of_iff _ called_iff_map_report.symm

theorem scene_length (c : Course τ) : c.scene c.steps.length = c.last := by
  rw [scene, List.take_length]
  rfl

theorem scene_succ (h : c.steps[i]? = some x) :
    c.scene (i + 1) = ((c.scene i).step c.answer x).1 := by
  have htake : c.steps.take (i + 1) = c.steps.take i ++ [x] := by
    rw [List.take_add_one, h]
    rfl
  rw [scene, htake, Scene.run_append]
  rfl

theorem scene_succ_of_none (h : c.steps[i]? = none) :
    c.scene (i + 1) = c.scene i := by
  have htake : c.steps.take (i + 1) = c.steps.take i := by
    rw [List.take_add_one, h, Option.toList_none, List.append_nil]
  rw [scene, htake]
  rfl

/-- What is kept by the steps from one place to another holds behind them if it
holds in front of them. -/
theorem scene_induction {P : Scene τ → Prop} (hle : i ≤ k)
    (hbase : P (c.scene i))
    (hstep : ∀ j x, i ≤ j → j < k → c.steps[j]? = some x → P (c.scene j) →
      P ((c.scene j).step c.answer x).1) : P (c.scene k) := by
  induction k, hle using Nat.le_induction with
  | base => exact hbase
  | succ k hle ih =>
      have hscene : P (c.scene k) :=
        ih fun j x hij hjk => hstep j x hij (Nat.lt_succ_of_lt hjk)
      cases hx : c.steps[k]? with
      | none => rwa [scene_succ_of_none hx]
      | some x =>
          rw [scene_succ hx]
          exact hstep k x hle (Nat.lt_succ_self k) hx hscene

/-- A step is reported on as it is taken. -/
theorem report?_eq (h : c.steps[i]? = some x) :
    c.report? i = some ((c.scene i).step c.answer x).2 := by
  obtain ⟨hi, hx⟩ := List.getElem?_eq_some_iff.mp h
  have hsteps : c.steps = c.steps.take i ++ x :: c.steps.drop (i + 1) := by
    rw [← hx, ← List.drop_eq_getElem_cons hi, List.take_append_drop]
  have hlength : (c.start.run c.answer (c.steps.take i)).2.length = i := by
    rw [Scene.length_run, List.length_take, Nat.min_eq_left (Nat.le_of_lt hi)]
  have hreports := Scene.run_append c.answer c.start (c.steps.take i)
    (x :: c.steps.drop (i + 1))
  rw [← hsteps] at hreports
  rw [report?, hreports, List.getElem?_append_right (Nat.le_of_eq hlength),
    hlength, Nat.sub_self]
  rfl

theorem called_iff_step (h : c.steps[i]? = some x) :
    c.Called i ↔ ((c.scene i).step c.answer x).2.called = true := by
  rw [Called, report?_eq h]
  simp

/-- Calls are made at steps. -/
theorem Called.exists_step (h : c.Called i) : ∃ x, c.steps[i]? = some x := by
  obtain ⟨r, hr, -⟩ := h
  by_contra hnone
  have hi : c.steps.length ≤ i := by
    rw [← List.getElem?_eq_none_iff, Option.eq_none_iff_forall_ne_some]
    intro x hx
    exact hnone ⟨x, hx⟩
  rw [report?, List.getElem?_eq_none (by rwa [Scene.length_run])] at hr
  cases hr

/-- A watcher stays the same but for what is due. -/
theorem exists_watcher_scene (c : Course τ) (i : Nat) :
    ∃ due, (c.scene i).watcher = { c.start.watcher with due := due } := by
  refine scene_induction
    (P := fun s => ∃ due, s.watcher = { c.start.watcher with due := due })
    (Nat.zero_le i) ⟨c.start.watcher.due, rfl⟩ ?_
  rintro j x _ _ _ ⟨due, hdue⟩
  obtain ⟨due', hdue'⟩ := Scene.exists_watcher_reaction (c.scene j) x
  refine ⟨due', ?_⟩
  rw [Scene.watcher_step, hdue', hdue]

theorem delay_scene (c : Course τ) (i : Nat) :
    (c.scene i).watcher.delay = c.start.watcher.delay := by
  obtain ⟨due, h⟩ := c.exists_watcher_scene i
  rw [h]

theorem order_scene (c : Course τ) (i : Nat) :
    (c.scene i).watcher.order = c.start.watcher.order := by
  obtain ⟨due, h⟩ := c.exists_watcher_scene i
  rw [h]
  rfl

/-! ## Waits -/

/-- A step is a relevant event. -/
def Relevant (c : Course τ) (i : Nat) : Prop :=
  ∃ x, c.steps[i]? = some x ∧ (c.scene i).Notices x

/-- The instant at which results become due by an event. -/
def due (c : Course τ) (i : Nat) : τ :=
  (c.scene i).now + c.start.watcher.delay

/-- A later step is a flush, or time passes and reaches the instant at which
results become due by an event. -/
def Delivers (c : Course τ) (i j : Nat) : Prop :=
  i < j ∧ ∃ x, c.steps[j]? = some x ∧ (c.scene j).Delivers (c.due i) x

/-- A later step ends the wait that an event began: it is a relevant event or a
cancellation, or it delivers the results. -/
def Ends (c : Course τ) (i j : Nat) : Prop :=
  i < j ∧ ∃ x, c.steps[j]? = some x ∧ (c.scene j).Ends (c.due i) x

/-- A step answers a relevant event: it is the first one to end the wait, and
it delivers the results. -/
structure Answers (c : Course τ) (i j : Nat) : Prop where
  relevant : c.Relevant i
  delivers : c.Delivers i j
  first : ∀ k < j, ¬ c.Ends i k

theorem Delivers.ends (h : c.Delivers i j) : c.Ends i j := by
  obtain ⟨hlt, x, hx, hdelivers⟩ := h
  exact ⟨hlt, x, hx, Or.inr (Or.inr hdelivers)⟩

/-- The next relevant event ends a wait. -/
theorem Relevant.ends (h : c.Relevant j) (hlt : i < j) : c.Ends i j := by
  obtain ⟨x, hx, hnotices⟩ := h
  exact ⟨hlt, x, hx, Or.inl hnotices⟩

/-- A step is due to an event: it is the event, or, with a delay, it answers
it. -/
def DueTo (c : Course τ) (i j : Nat) : Prop :=
  if c.start.watcher.delay ≤ 0 then i = j ∧ c.Relevant i else c.Answers i j

theorem DueTo.relevant (h : c.DueTo i j) : c.Relevant i := by
  unfold DueTo at h
  split at h
  · exact h.2
  · exact h.relevant

/-- An event is answered by one step at most. -/
theorem Answers.step_unique (h : c.Answers i j) (h' : c.Answers i k) :
    j = k := by
  rcases Nat.lt_trichotomy j k with hlt | heq | hlt
  · exact absurd h.delivers.ends (h'.first j hlt)
  · exact heq
  · exact absurd h'.delivers.ends (h.first k hlt)

/-- A step answers one event at most, because the later one of two ends the
wait of the earlier one. -/
theorem Answers.event_unique (h : c.Answers i k) (h' : c.Answers j k) :
    i = j := by
  rcases Nat.lt_trichotomy i j with hlt | heq | hlt
  · exact absurd (h'.relevant.ends hlt) (h.first j h'.delivers.1)
  · exact heq
  · exact absurd (h.relevant.ends hlt) (h'.first i h.delivers.1)

/-- **What is due in front of a step**: what an event made due, if nothing has
ended the wait for it. -/
theorem due_scene_iff (hnew : c.start.watcher.due = none)
    (hd : ¬ c.start.watcher.delay ≤ 0) (hi : i ≤ c.steps.length) (t : τ) :
    (c.scene i).watcher.due = some t ↔
      ∃ k < i, c.Relevant k ∧ c.due k = t ∧ ∀ j < i, ¬ c.Ends k j := by
  induction i generalizing t with
  | zero =>
      have hstart : (c.scene 0).watcher.due = none := hnew
      simp [hstart]
  | succ i ih =>
      have hx : c.steps[i]? = some c.steps[i] := List.getElem?_eq_getElem hi
      have hdelay : ¬ (c.scene i).watcher.delay ≤ 0 := by
        rwa [delay_scene]
      rw [scene_succ hx, Scene.watcher_step,
        Scene.reaction_due_iff hdelay, ih (Nat.le_of_lt hi), delay_scene]
      constructor
      · rintro (⟨hnotices, ht⟩ | ⟨⟨k, hk, hrelevant, ht, hnone⟩, hopen⟩)
        · refine ⟨i, Nat.lt_succ_self i, ⟨_, hx, hnotices⟩, ht, ?_⟩
          intro j hj hends
          exact absurd hends.1 (by omega)
        · refine ⟨k, Nat.lt_succ_of_lt hk, hrelevant, ht, ?_⟩
          intro j hj hends
          rcases Nat.lt_succ_iff_lt_or_eq.mp hj with hlt | rfl
          · exact hnone j hlt hends
          · obtain ⟨-, x, hx', hends⟩ := hends
            rw [Option.some.inj (hx'.symm.trans hx), ht] at hends
            exact hopen hends
      · rintro ⟨k, hk, hrelevant, ht, hnone⟩
        rcases Nat.lt_succ_iff_lt_or_eq.mp hk with hlt | rfl
        · refine Or.inr ⟨⟨k, hlt, hrelevant, ht,
            fun j hj => hnone j (Nat.lt_succ_of_lt hj)⟩, ?_⟩
          intro hends
          rw [← ht] at hends
          exact hnone i (Nat.lt_succ_self i) ⟨hlt, _, hx, hends⟩
        · obtain ⟨x, hx', hnotices⟩ := hrelevant
          rw [Option.some.inj (hx'.symm.trans hx)] at hnotices
          exact Or.inl ⟨hnotices, ht⟩

/-- Without a delay nothing is ever due. -/
theorem due_scene_eq_none (hnew : c.start.watcher.due = none)
    (hd : c.start.watcher.delay ≤ 0) (i : Nat) :
    (c.scene i).watcher.due = none := by
  refine scene_induction (P := fun s => s.watcher.due = none) (Nat.zero_le i)
    hnew ?_
  intro j x _ _ _ hdue
  rw [Scene.watcher_step]
  exact Scene.reaction_due_eq_none (by rwa [delay_scene]) hdue x

/-! ## Calls -/

/-- **Which steps call**, if there is a delay: those that answer an event. -/
theorem called_iff (hnew : c.start.watcher.due = none)
    (hd : ¬ c.start.watcher.delay ≤ 0) (j : Nat) :
    c.Called j ↔ ∃ i, c.Answers i j := by
  constructor
  · intro h
    obtain ⟨x, hx⟩ := h.exists_step
    have hj : j ≤ c.steps.length :=
      Nat.le_of_lt (List.getElem?_eq_some_iff.mp hx).1
    rw [called_iff_step hx, Scene.called_step, Scene.reaction_calls_iff,
      delay_scene] at h
    rcases h with ⟨hle, -⟩ | ⟨t, ht, hdelivers⟩
    · exact absurd hle hd
    · obtain ⟨i, hi, hrelevant, rfl, hnone⟩ :=
        (due_scene_iff hnew hd hj t).mp ht
      exact ⟨i, hrelevant, ⟨hi, x, hx, hdelivers⟩, hnone⟩
  · rintro ⟨i, hrelevant, ⟨hi, x, hx, hdelivers⟩, hnone⟩
    have hj : j ≤ c.steps.length :=
      Nat.le_of_lt (List.getElem?_eq_some_iff.mp hx).1
    have hdue : (c.scene j).watcher.due = some (c.due i) :=
      (due_scene_iff hnew hd hj _).mpr ⟨i, hi, hrelevant, rfl, hnone⟩
    rw [called_iff_step hx, Scene.called_step, Scene.reaction_calls_iff]
    exact Or.inr ⟨_, hdue, hdelivers⟩

/-- **Which steps call** without a delay: the relevant events. -/
theorem called_iff_of_no_delay (hnew : c.start.watcher.due = none)
    (hd : c.start.watcher.delay ≤ 0) (j : Nat) :
    c.Called j ↔ c.Relevant j := by
  have hdue := due_scene_eq_none hnew hd j
  constructor
  · intro h
    obtain ⟨x, hx⟩ := h.exists_step
    rw [called_iff_step hx, Scene.called_step, Scene.reaction_calls_iff] at h
    rcases h with ⟨-, hnotices⟩ | ⟨t, ht, -⟩
    · exact ⟨x, hx, hnotices⟩
    · rw [hdue] at ht
      cases ht
  · rintro ⟨x, hx, hnotices⟩
    rw [called_iff_step hx, Scene.called_step, Scene.reaction_calls_iff,
      delay_scene]
    exact Or.inl ⟨hd, hnotices⟩

/-- Every call is due to an event. -/
theorem Called.exists_dueTo (hnew : c.start.watcher.due = none)
    (h : c.Called j) : ∃ i ≤ j, c.DueTo i j := by
  unfold DueTo
  split
  · next hd =>
      exact ⟨j, Nat.le_refl j, rfl, (called_iff_of_no_delay hnew hd j).mp h⟩
  · next hd =>
      obtain ⟨i, hi⟩ := (called_iff hnew hd j).mp h
      exact ⟨i, Nat.le_of_lt hi.delivers.1, hi⟩

/-- Results are pending at the end if nothing has ended the last wait. -/
theorem pending_last_iff (hnew : c.start.watcher.due = none)
    (hd : ¬ c.start.watcher.delay ≤ 0) :
    c.last.watcher.pending = true ↔
      ∃ i, c.Relevant i ∧ ∀ j, ¬ c.Ends i j := by
  rw [Watcher.pending, Option.isSome_iff_exists, ← scene_length]
  constructor
  · rintro ⟨t, ht⟩
    obtain ⟨i, -, hrelevant, -, hnone⟩ :=
      (due_scene_iff hnew hd (Nat.le_refl _) t).mp ht
    refine ⟨i, hrelevant, fun j hends => ?_⟩
    obtain ⟨hlt, x, hx, hx'⟩ := hends
    exact hnone j (List.getElem?_eq_some_iff.mp hx).1 ⟨hlt, x, hx, hx'⟩
  · rintro ⟨i, hrelevant, hnone⟩
    have hi : i < c.steps.length := by
      obtain ⟨x, hx, -⟩ := hrelevant
      exact (List.getElem?_eq_some_iff.mp hx).1
    exact ⟨c.due i, (due_scene_iff hnew hd (Nat.le_refl _) _).mpr
      ⟨i, hi, hrelevant, rfl, fun j _ => hnone j⟩⟩

/-- **The history of a watch.**  With a delay the watcher calls at the steps
that answer an event, once for each event that is answered, and results are
pending if nothing has ended the last wait.  Without a delay it calls at the
relevant events, and nothing is ever pending.  Each call does the work of one
answer to the order that the watcher was made with, and a step without a call
does nothing to the desk but what it changes from outside. -/
theorem history (c : Course τ) (hnew : c.start.watcher.due = none) :
    (¬ c.start.watcher.delay ≤ 0 →
      (∀ j, c.Called j ↔ ∃ i, c.Answers i j) ∧
      (∀ i j k, c.Answers i j → c.Answers i k → j = k) ∧
      (∀ i j k, c.Answers i k → c.Answers j k → i = j) ∧
      (c.last.watcher.pending = true ↔
        ∃ i, c.Relevant i ∧ ∀ j, ¬ c.Ends i j)) ∧
    (c.start.watcher.delay ≤ 0 →
      (∀ j, c.Called j ↔ c.Relevant j) ∧
      c.last.watcher.pending = false) ∧
    ∀ j x, c.steps[j]? = some x →
      (c.Called j → (c.scene (j + 1)).desk =
        ((c.answer c.start.watcher.order).on
          { (c.scene j).desk with log := [] }).2) ∧
      (¬ c.Called j → (c.scene (j + 1)).desk =
        { (c.scene j).desk with
          storage.tree :=
            (c.scene j).outside x (c.scene j).desk.storage.tree }) := by
  refine ⟨fun hd => ?_, fun hd => ?_, fun j x hx => ⟨fun h => ?_, fun h => ?_⟩⟩
  · exact ⟨called_iff hnew hd, fun _ _ _ => Answers.step_unique,
      fun _ _ _ => Answers.event_unique, pending_last_iff hnew hd⟩
  · refine ⟨called_iff_of_no_delay hnew hd, ?_⟩
    rw [Watcher.pending, ← scene_length, due_scene_eq_none hnew hd]
    rfl
  · rw [scene_succ hx,
      (Scene.desk_step_of_called ((called_iff_step hx).mp h)).1, order_scene]
  · rw [called_iff_step hx, Bool.not_eq_true] at h
    rw [scene_succ hx, Scene.desk_step_of_not_called h]

/-- A watch of which every call fails.  The first event is put off by the
second, which is answered by a flush before its time; the third is cancelled. -/
def failingBurst : Course Binary64 where
  answer o := throw (.noSchema o.path)
  start := ⟨{}, 0, { path := .ofString "w", delay := .ofInt 3 }⟩
  steps :=
    [.event { source := "w/a.d2" }, .advance (.ofInt 2),
      .event { source := "w/b.tmp", target := some "w/b.D2", kind := "moved" },
      .advance (.ofInt 2), .flush, .event { source := "w/a.d2" }, .cancel,
      .advance (.ofInt 9)]

/-- It calls once. -/
theorem history_of_failingBurst :
    failingBurst.start.watcher.due = none ∧
      ¬ failingBurst.start.watcher.delay ≤ 0 ∧
      (∃ i, failingBurst.Answers i 4) ∧
      (∀ i, ¬ failingBurst.Answers i 3) ∧
      (∀ i, ¬ failingBurst.Answers i 7) ∧
      ∀ i, failingBurst.Relevant i → ∃ j, failingBurst.Ends i j := by
  have hnew : failingBurst.start.watcher.due = none := rfl
  have hd : ¬ failingBurst.start.watcher.delay ≤ 0 := by decide +kernel
  have hcalled : failingBurst.Called 4 := by decide +kernel
  have hnot : ¬ failingBurst.Called 3 ∧ ¬ failingBurst.Called 7 := by
    decide +kernel
  have hidle : failingBurst.last.watcher.pending = false := by decide +kernel
  obtain ⟨hcalls, -, -, hpending⟩ := (history failingBurst hnew).1 hd
  rw [hcalls, hcalls, not_exists, not_exists] at hnot
  refine ⟨hnew, hd, (hcalls 4).mp hcalled, hnot.1, hnot.2, ?_⟩
  intro i hi
  by_contra hopen
  rw [hpending.mpr ⟨i, hi, not_exists.mp hopen⟩] at hidle
  cases hidle

end Course

end TableSketch
