import Mathlib.Data.List.Basic
import TableSketch.Watch.Scene

/-!
# What a watcher does about a step

A watcher has one piece of state, the instant at which results become due, and
every step does one of four things to it.  A relevant event sets it, a step
that ends the wait clears it, and all others leave it; a call is made when the
wait ends with a flush or with the passing of time, or, without a delay, at the
event itself.  `Scene.reaction_calls_iff` and `Scene.reaction_due_iff` say so,
and everything about longer runs is derived from these two.

An event is relevant if one of its paths concerns the watcher.  Where that
cannot be told of a path, the event fails, and a failed event is not relevant
(`Watcher.isRelevant_iff`).  If the watched path can be looked up at all, only a
path that can name nothing makes an event fail
(`Watcher.isRelevant_iff_concerned`).

What comes of a reaction on the desk is a matter of its own.  A call does the
work of one answer to the order of the watcher, whether that fails or not; a
step without a call changes no more than what it changes from outside.

## Main results

* `Watcher.isRelevant_iff` — relevant events are those that hit something.
* `Scene.reaction_calls_iff`, `Scene.reaction_due_iff` — what a step does to a
  watcher.
* `Scene.desk_step_of_called`, `Scene.desk_step_of_not_called` — and to its
  desk.
-/

namespace TableSketch

/-! ## Choosing elements by a question that may fail -/

section Choice

variable {α β ε : Type} {f : α → Except ε Bool} {as : List α}

/-- What succeeds, succeeds step by step. -/
theorem exists_of_bind_eq_ok {x : Except ε α} {g : α → Except ε β} {b : β}
    (h : x >>= g = .ok b) : ∃ a, x = .ok a ∧ g a = .ok b := by
  cases x with
  | error e => cases h
  | ok a => exact ⟨a, rfl, h⟩

theorem filterAuxM_eq_ok {g : α → Bool} (h : ∀ a ∈ as, f a = .ok (g a))
    (acc : List α) :
    List.filterAuxM f as acc = .ok ((as.filter g).reverse ++ acc) := by
  induction as generalizing acc with
  | nil => rfl
  | cons a as ih =>
      have ha : f a = .ok (g a) := h a (by simp)
      have hrest := ih (fun b hb => h b (by simp [hb]))
      show (f a >>= fun b => List.filterAuxM f as (cond b (a :: acc) acc)) = _
      rw [ha]
      show List.filterAuxM f as (cond (g a) (a :: acc) acc) = _
      rw [hrest]
      cases hg : g a with
      | true => simp [hg]
      | false => simp [hg]

theorem filterM_eq_ok {g : α → Bool} (h : ∀ a ∈ as, f a = .ok (g a)) :
    as.filterM f = .ok (as.filter g) := by
  show (List.filterAuxM f as [] >>= fun bs => .ok bs.reverse) = _
  rw [filterAuxM_eq_ok h]
  show Except.ok ((as.filter g).reverse ++ []).reverse = _
  rw [List.append_nil, List.reverse_reverse]

/-- Elements are chosen only if every question is answered. -/
theorem exists_ok_of_filterAuxM {acc bs : List α}
    (h : List.filterAuxM f as acc = .ok bs) : ∀ a ∈ as, ∃ b, f a = .ok b := by
  induction as generalizing acc with
  | nil => simp
  | cons a as ih =>
      obtain ⟨b, hb, hrest⟩ := exists_of_bind_eq_ok h
      intro a' ha'
      rcases List.mem_cons.mp ha' with rfl | ha'
      · exact ⟨b, hb⟩
      · exact ih hrest a' ha'

theorem exists_ok_of_filterM {bs : List α} (h : as.filterM f = .ok bs) :
    ∀ a ∈ as, ∃ b, f a = .ok b := by
  obtain ⟨cs, hcs, -⟩ := exists_of_bind_eq_ok h
  exact exists_ok_of_filterAuxM hcs

end Choice

/-! ## Relevant events -/

/-- The paths that an event names: where something changed, and where it was
moved to. -/
def ChangeEvent.paths (e : ChangeEvent) : List Path :=
  (([e.source] ++ e.target.toList).filter (· != "")).map Path.ofString

/-- An event that a watcher takes notice of.  It is not about a directory, and
one of its paths concerns the watcher.  If it cannot be told of a path whether
it does, the event fails and goes unnoticed. -/
structure Watcher.IsRelevant {τ : Type} (w : Watcher τ) (s : Storage)
    (e : ChangeEvent) : Prop where
  notDirectory : e.isDirectory = false
  concerned : ∃ p ∈ e.paths, w.concerns s p = .ok true
  told : ∀ p ∈ e.paths, ∃ b, w.concerns s p = .ok b

namespace Watcher

variable {τ : Type} {w : Watcher τ} {s : Storage} {e : ChangeEvent}

theorem hits_of_told (hdir : e.isDirectory = false)
    (htold : ∀ p ∈ e.paths, ∃ b, w.concerns s p = .ok b) :
    w.hits s e =
      .ok (e.paths.filter fun p => (w.concerns s p).toOption.getD false) := by
  rw [hits, hdir, if_neg Bool.false_ne_true]
  refine filterM_eq_ok fun p hp => ?_
  obtain ⟨b, hb⟩ := htold p hp
  rw [hb]
  rfl

/-- The events that hit something are the relevant ones. -/
theorem isRelevant_iff :
    w.IsRelevant s e ↔ ∃ hits, w.hits s e = .ok hits ∧ hits ≠ [] := by
  constructor
  · intro h
    refine ⟨_, hits_of_told h.notDirectory h.told, ?_⟩
    obtain ⟨p, hp, hconcern⟩ := h.concerned
    refine List.ne_nil_of_mem (a := p) (List.mem_filter.mpr ⟨hp, ?_⟩)
    rw [hconcern]
    rfl
  · rintro ⟨hits, hhits, hne⟩
    have hdir : e.isDirectory = false := by
      cases hd : e.isDirectory with
      | false => rfl
      | true =>
          rw [Watcher.hits, hd, if_pos rfl] at hhits
          cases hhits
          exact absurd rfl hne
    have htold : ∀ p ∈ e.paths, ∃ b, w.concerns s p = .ok b := by
      rw [Watcher.hits, hdir, if_neg Bool.false_ne_true] at hhits
      exact exists_ok_of_filterM hhits
    refine ⟨hdir, ?_, htold⟩
    rw [hits_of_told hdir htold] at hhits
    obtain ⟨p, hp⟩ := List.exists_mem_of_ne_nil hits hne
    rw [← Except.ok.inj hhits, List.mem_filter] at hp
    refine ⟨p, hp.1, ?_⟩
    obtain ⟨b, hb⟩ := htold p hp.1
    have htrue : b = true := by
      have := hp.2
      rwa [hb] at this
    rw [hb, htrue]

/-- Paths that denote the same place. -/
def SamePlace (s : Storage) (p q : Path) : Prop :=
  ∃ l, s.resolve p = .ok l ∧ s.resolve q = .ok l

/-- What it is about a path that concerns a watcher: it denotes the watched
file, or it leads to a sketch while no file is watched. -/
theorem concerns_eq_true {p : Path} (h : w.concerns s p = .ok true) :
    (s.isFile w.path = .ok true ∧ SamePlace s p w.path) ∨
      (s.isFile w.path = .ok false ∧ p.isSketch = true) := by
  unfold concerns at h
  obtain ⟨watched, hwatched, hrest⟩ := exists_of_bind_eq_ok h
  cases watched with
  | false => exact Or.inr ⟨hwatched, Except.ok.inj hrest⟩
  | true =>
      obtain ⟨l, hl, hrest⟩ := exists_of_bind_eq_ok hrest
      obtain ⟨l', hl', hrest⟩ := exists_of_bind_eq_ok hrest
      have hsame : (l == l') = true := Except.ok.inj hrest
      exact Or.inl ⟨hwatched, l, hl, by rw [hl', beq_iff_eq.mp hsame]⟩

/-- While no file is watched, all paths to sketches concern the watcher. -/
theorem concerns_of_no_file (h : s.isFile w.path = .ok false) (p : Path) :
    w.concerns s p = .ok p.isSketch := by
  rw [concerns, h]
  rfl

/-- A file that is there can be resolved. -/
theorem exists_resolve_of_isFile {p : Path} (h : s.isFile p = .ok true) :
    ∃ l, s.resolve p = .ok l := by
  have hname : p.hasTerminator = false := by
    by_contra hbad
    rw [Bool.not_eq_false] at hbad
    rw [Storage.isFile, Storage.find, Storage.locate, if_pos hbad] at h
    cases h
  refine ⟨s.place p, ?_⟩
  rw [Storage.resolve, hname, if_neg Bool.false_ne_true]

/-- Events of which every path can name something go by what concerns the
watcher alone. -/
theorem isRelevant_iff_concerned {b : Bool} (hpath : s.isFile w.path = .ok b)
    (hnames : ∀ p ∈ e.paths, p.hasTerminator = false) :
    w.IsRelevant s e ↔
      e.isDirectory = false ∧ ∃ p ∈ e.paths, w.concerns s p = .ok true := by
  refine ⟨fun h => ⟨h.notDirectory, h.concerned⟩, fun h => ⟨h.1, h.2, ?_⟩⟩
  intro p hp
  cases b with
  | false => exact ⟨_, concerns_of_no_file hpath p⟩
  | true =>
      obtain ⟨l, hl⟩ := exists_resolve_of_isFile hpath
      have hresolve : s.resolve p = .ok (s.place p) := by
        rw [Storage.resolve, hnames p hp, if_neg Bool.false_ne_true]
      refine ⟨s.place p == l, ?_⟩
      rw [concerns, hpath, hresolve, hl]
      rfl

/-! ## Reactions -/

section Reactions

variable [Add τ] [LE τ] [DecidableLE τ] [Zero τ] {now : τ}

/-- A relevant event starts the wait anew, or calls at once if there is no
delay. -/
theorem onEvent_of_isRelevant (h : w.IsRelevant s e) (now : τ) :
    ∃ message, w.onEvent s now e =
      if w.delay ≤ 0 then w.call [message]
      else { watcher := { w with due := some (now + w.delay) }
             messages := [message] } := by
  obtain ⟨hits, hhits, hne⟩ := isRelevant_iff.mp h
  obtain ⟨p, hp⟩ := List.getLast?_isSome.mpr hne |> Option.isSome_iff_exists.mp
  refine ⟨p.text ++ " changed (" ++ e.kind ++ ")", ?_⟩
  rw [onEvent, hhits]
  simp only [hp]

/-- Any other event leaves the watcher as it is. -/
theorem onEvent_of_not_isRelevant (h : ¬ w.IsRelevant s e) (now : τ) :
    ∃ failure, w.onEvent s now e =
      { watcher := w, failure := failure } := by
  cases hhits : w.hits s e with
  | error f => exact ⟨some f, by rw [onEvent, hhits]⟩
  | ok hits =>
      have hnil : hits = [] := by
        by_contra hne
        exact h (isRelevant_iff.mpr ⟨hits, hhits, hne⟩)
      refine ⟨none, ?_⟩
      rw [onEvent, hhits, hnil]
      rfl

end Reactions

end Watcher

/-! ## Steps of a scene -/

namespace Scene

variable {τ : Type} [Add τ] [LE τ] [DecidableLE τ] [Zero τ]
variable {answer : Order → Work Unit} {s : Scene τ} {x : SceneStep τ} {t : τ}

/-- The step is a relevant event. -/
def Notices (s : Scene τ) (x : SceneStep τ) : Prop :=
  ∃ e, x = .event e ∧ s.watcher.IsRelevant s.desk.storage e

/-- The step lets the results become known that are due at an instant: it is a
flush, or time passes and reaches the instant. -/
def Delivers (s : Scene τ) (t : τ) (x : SceneStep τ) : Prop :=
  x = .flush ∨ ∃ d, x = .advance d ∧ t ≤ s.now + d

/-- The step ends the wait for results that are due at an instant.  It delivers
them, or a relevant event puts them off, or they are cancelled. -/
def Ends (s : Scene τ) (t : τ) (x : SceneStep τ) : Prop :=
  s.Notices x ∨ x = .cancel ∨ s.Delivers t x

/-- What the watcher does about a step. -/
def reaction (s : Scene τ) : SceneStep τ → Reaction τ
  | .event e => s.watcher.onEvent s.desk.storage s.now e
  | .advance d => s.watcher.onInstant (s.now + d)
  | .flush => s.watcher.onFlush
  | .cancel => s.watcher.onCancel
  | _ => { watcher := s.watcher }

/-- The scene in which the watcher reacts to a step. -/
def entered (s : Scene τ) (x : SceneStep τ) : Scene τ :=
  match x with
  | .advance d => { s with now := s.now + d }
  | x => { s with desk.storage.tree := s.outside x s.desk.storage.tree }

/-- A step is the reaction of the watcher, taking its course. -/
theorem step_eq_react (answer : Order → Work Unit) (s : Scene τ)
    (x : SceneStep τ) :
    ∃ byTime, s.step answer x =
      (s.entered x).react answer byTime (s.reaction x) := by
  cases x with
  | advance d => exact ⟨true, rfl⟩
  | event e => exact ⟨false, rfl⟩
  | flush => exact ⟨false, rfl⟩
  | cancel => exact ⟨false, rfl⟩
  | write p content => exact ⟨false, rfl⟩
  | delete p => exact ⟨false, rfl⟩
  | rest => exact ⟨false, rfl⟩

/-! ### The watcher -/

/-- A reaction changes nothing about a watcher but what is due. -/
theorem exists_watcher_reaction (s : Scene τ) (x : SceneStep τ) :
    ∃ due, (s.reaction x).watcher = { s.watcher with due := due } := by
  cases x with
  | event e =>
      by_cases h : s.watcher.IsRelevant s.desk.storage e
      · obtain ⟨message, heq⟩ := Watcher.onEvent_of_isRelevant h s.now
        rw [reaction, heq]
        split
        · exact ⟨s.watcher.due, rfl⟩
        · exact ⟨_, rfl⟩
      · obtain ⟨failure, heq⟩ := Watcher.onEvent_of_not_isRelevant h s.now
        rw [reaction, heq]
        exact ⟨s.watcher.due, rfl⟩
  | advance d =>
      rw [reaction, Watcher.onInstant]
      split
      · exact ⟨s.watcher.due, rfl⟩
      · split
        · exact ⟨none, rfl⟩
        · exact ⟨s.watcher.due, rfl⟩
  | flush =>
      rw [reaction, Watcher.onFlush]
      split
      · exact ⟨none, rfl⟩
      · exact ⟨s.watcher.due, rfl⟩
  | cancel => exact ⟨none, rfl⟩
  | write p content => exact ⟨s.watcher.due, rfl⟩
  | delete p => exact ⟨s.watcher.due, rfl⟩
  | rest => exact ⟨s.watcher.due, rfl⟩

/-- **When a watcher calls**: at a relevant event if there is no delay, and
when results that are due are delivered. -/
theorem reaction_calls_iff (s : Scene τ) (x : SceneStep τ) :
    (s.reaction x).calls = true ↔
      (s.watcher.delay ≤ 0 ∧ s.Notices x) ∨
        ∃ t, s.watcher.due = some t ∧ s.Delivers t x := by
  cases x with
  | event e =>
      by_cases h : s.watcher.IsRelevant s.desk.storage e
      · obtain ⟨message, heq⟩ := Watcher.onEvent_of_isRelevant h s.now
        rw [reaction, heq]
        by_cases hd : s.watcher.delay ≤ 0
        · simp [hd, Watcher.call, Notices, h]
        · simp [hd, Delivers]
      · obtain ⟨failure, heq⟩ := Watcher.onEvent_of_not_isRelevant h s.now
        rw [reaction, heq]
        simp [Notices, h, Delivers]
  | advance d =>
      rw [reaction, Watcher.onInstant]
      cases hdue : s.watcher.due with
      | none => simp [Notices]
      | some t =>
          by_cases ht : t ≤ s.now + d
          · simp [ht, Watcher.call, Delivers]
          · simp [ht, Notices, Delivers]
  | flush =>
      rw [reaction, Watcher.onFlush, Watcher.pending]
      cases hdue : s.watcher.due with
      | none => simp [Notices]
      | some t => simp [Watcher.call, Delivers]
  | cancel => simp [reaction, Watcher.onCancel, Notices, Delivers]
  | write p content => simp [reaction, Notices, Delivers]
  | delete p => simp [reaction, Notices, Delivers]
  | rest => simp [reaction, Notices, Delivers]

/-- **What is due behind a step**, if there is a delay: what a relevant event
made due, or what was due before and has not ended. -/
theorem reaction_due_iff (hd : ¬ s.watcher.delay ≤ 0) (x : SceneStep τ)
    (t : τ) :
    (s.reaction x).watcher.due = some t ↔
      (s.Notices x ∧ s.now + s.watcher.delay = t) ∨
        (s.watcher.due = some t ∧ ¬ s.Ends t x) := by
  cases x with
  | event e =>
      by_cases h : s.watcher.IsRelevant s.desk.storage e
      · obtain ⟨message, heq⟩ := Watcher.onEvent_of_isRelevant h s.now
        rw [reaction, heq, if_neg hd]
        simp [Notices, Ends, h]
      · obtain ⟨failure, heq⟩ := Watcher.onEvent_of_not_isRelevant h s.now
        rw [reaction, heq]
        simp [Notices, Ends, Delivers, h]
  | advance d =>
      rw [reaction, Watcher.onInstant]
      cases hdue : s.watcher.due with
      | none => simp [hdue, Notices]
      | some u =>
          by_cases hu : u ≤ s.now + d
          · simp only [hu, if_true, Watcher.call, Notices, Ends, Delivers]
            simp only [reduceCtorEq, false_and, exists_false, false_or,
              SceneStep.advance.injEq, exists_eq_left', false_iff,
              Option.some.injEq, not_and, not_not]
            rintro rfl
            exact hu
          · simp only [hu, if_false, hdue, Notices, Ends, Delivers]
            simp only [reduceCtorEq, false_and, exists_false, false_or,
              SceneStep.advance.injEq, exists_eq_left', Option.some.injEq]
            constructor
            · rintro rfl
              exact ⟨rfl, hu⟩
            · rintro ⟨rfl, -⟩
              rfl
  | flush =>
      rw [reaction, Watcher.onFlush, Watcher.pending]
      cases hdue : s.watcher.due with
      | none => simp [hdue, Notices]
      | some u => simp [Watcher.call, Notices, Ends, Delivers]
  | cancel => simp [reaction, Watcher.onCancel, Notices, Ends]
  | write p content => simp [reaction, Notices, Ends, Delivers]
  | delete p => simp [reaction, Notices, Ends, Delivers]
  | rest => simp [reaction, Notices, Ends, Delivers]

/-- Without a delay nothing ever becomes due. -/
theorem reaction_due_eq_none (hd : s.watcher.delay ≤ 0)
    (hdue : s.watcher.due = none) (x : SceneStep τ) :
    (s.reaction x).watcher.due = none := by
  cases x with
  | event e =>
      by_cases h : s.watcher.IsRelevant s.desk.storage e
      · obtain ⟨message, heq⟩ := Watcher.onEvent_of_isRelevant h s.now
        rw [reaction, heq, if_pos hd]
        exact hdue
      · obtain ⟨failure, heq⟩ := Watcher.onEvent_of_not_isRelevant h s.now
        rw [reaction, heq]
        exact hdue
  | advance d => simp [reaction, Watcher.onInstant, hdue]
  | flush => simp [reaction, Watcher.onFlush, Watcher.pending, hdue]
  | cancel => rfl
  | write p content => exact hdue
  | delete p => exact hdue
  | rest => exact hdue

/-! ### The step -/

theorem watcher_step (answer : Order → Work Unit) (s : Scene τ)
    (x : SceneStep τ) :
    (s.step answer x).1.watcher = (s.reaction x).watcher := by
  obtain ⟨byTime, heq⟩ := step_eq_react answer s x
  rw [heq, react]
  split
  · rfl
  · rfl

theorem called_step (answer : Order → Work Unit) (s : Scene τ)
    (x : SceneStep τ) :
    (s.step answer x).2.called = (s.reaction x).calls := by
  obtain ⟨byTime, heq⟩ := step_eq_react answer s x
  rw [heq, react]
  split
  · next h => exact h.symm
  · next h => exact (Bool.eq_false_iff.mpr h).symm

/-- A call is made while nothing changes from outside. -/
theorem desk_entered_of_calls (h : (s.reaction x).calls = true) :
    (s.entered x).desk = s.desk := by
  cases x with
  | write p content => cases h
  | delete p => cases h
  | advance d => rfl
  | event e => rfl
  | flush => rfl
  | cancel => rfl
  | rest => rfl

/-- **A step with a call** does the work of one answer to the watcher's order,
and fails as that does. -/
theorem desk_step_of_called (h : (s.step answer x).2.called = true) :
    (s.step answer x).1.desk =
        ((answer s.watcher.order).on { s.desk with log := [] }).2 ∧
      ((s.step answer x).2.failure = none ↔
        ((answer s.watcher.order).on { s.desk with log := [] }).1 =
          .ok ()) := by
  rw [called_step] at h
  have horder : (s.reaction x).watcher.order = s.watcher.order := by
    obtain ⟨due, hw⟩ := exists_watcher_reaction s x
    rw [hw]
    rfl
  obtain ⟨byTime, heq⟩ := step_eq_react answer s x
  rw [heq, react, if_pos h, horder, desk_entered_of_calls h]
  refine ⟨rfl, ?_⟩
  dsimp only
  generalize (answer s.watcher.order).on { s.desk with log := [] } = done
  obtain ⟨result, desk⟩ := done
  cases result with
  | error f => simp
  | ok u => simp

/-- **A step without a call** changes what it changes from outside. -/
theorem desk_step_of_not_called (h : (s.step answer x).2.called = false) :
    (s.step answer x).1.desk =
      { s.desk with storage.tree := s.outside x s.desk.storage.tree } := by
  have hcalls : ¬ (s.reaction x).calls = true := by
    rw [← called_step answer, h]
    exact Bool.false_ne_true
  obtain ⟨byTime, heq⟩ := step_eq_react answer s x
  rw [heq, react, if_neg hcalls]
  cases x <;> rfl

end Scene

end TableSketch
