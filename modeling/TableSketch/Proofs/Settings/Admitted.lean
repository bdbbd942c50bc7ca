import TableSketch.Proofs.Generation.Work
import TableSketch.Proofs.Watch.Waiting
import TableSketch.Watch.Loop

/-!
# Admitted settings

Settings are checked once, when they are read, and used much later, by parts of
a run that do not check them again.  So what is admitted has to be good enough
for all of these.  Every setting is read by itself: it has its default, or what
its variable says, if that passes the check of the setting
(`Settings.ofSource_eq_ok_iff`).  The defaults pass these checks too, so what
may be relied on does not depend on where a setting comes from.

The dimension, the way to scan and the policy are good for what they are used
for.  The delay of a watcher is good as long as the platform can wait for it.
Its check asks no more than that it be not less than zero.  This rejects what is
no number, but it admits infinity, be it named or the value of a number that is
too large for the format, and it admits finite delays that no thread can wait
for.  A watcher that is given one of these never calls of itself.

## Main results

* `Settings.ofSource_eq_ok_iff` — where settings come from.
* `Settings.ReadFrom.not_isFinite_debounce_iff` — which delays are endless.
* `Settings.usable_of_load` — what admitted settings are good for.
-/

namespace TableSketch

namespace Platform

variable {p : Platform} {delay : Binary64}

theorem timerWait_of_le (h : delay ≤ p.longestWait) : p.timerWait delay = delay :=
  if_pos h

/-- A timer that is set to more than a thread can wait for never comes to its end, be the
delay infinite or not. -/
theorem timerWait_eq_infinite (hnonneg : 0 ≤ delay)
    (h : ¬ (delay.IsFinite ∧ delay ≤ p.longestWait)) :
    p.timerWait delay = .infinite false := by
  by_cases hle : delay ≤ p.longestWait
  · rw [timerWait_of_le hle]
    exact (Binary64.isFinite_or_eq hnonneg).resolve_left fun hfinite => h ⟨hfinite, hle⟩
  · exact if_neg hle

end Platform

namespace Checked

variable {α β : Type} {a : Checked α}

theorem map_eq_ok_iff {f : α → β} {y : β} :
    a.map f = .ok y ↔ ∃ x, a = .ok x ∧ f x = y := by
  cases a with
  | error e => simp [Except.map]
  | ok x => simp [Except.map]

/-- Two parts are right if both are. -/
theorem both_eq_ok_iff {b : Checked β} {p : α × β} :
    both a b = .ok p ↔ a = .ok p.1 ∧ b = .ok p.2 := by
  obtain ⟨x, y⟩ := p
  cases a with
  | error e => cases b <;> simp [both]
  | ok a => cases b <;> simp [both]

end Checked

namespace Settings

/-! ## Where settings come from -/

section Check

variable {α : Type} {source : Source} {key : String} {default a : α}
variable {read : String → Except Fault α}

/-- A setting has its default, or what its variable says. -/
theorem Source.check_eq_ok_iff :
    source.check key default read = .ok a ↔
      (source.value? key = none ∧ a = default) ∨
        ∃ v, source.value? key = some v ∧ read v = .ok a := by
  unfold Source.check
  cases source.value? key with
  | none => simp [eq_comm]
  | some v => cases hread : read v <;> simp [hread, Checked.fail]

/-- What holds of the default and of all that is read holds of a setting. -/
theorem Source.of_check {P : α → Prop}
    (h : source.check key default read = .ok a) (hdefault : P default)
    (hread : ∀ v b, read v = .ok b → P b) : P a := by
  rcases Source.check_eq_ok_iff.mp h with ⟨-, rfl⟩ | ⟨v, -, hv⟩
  · exact hdefault
  · exact hread v a hv

/-- If the default can be read from a word, every setting is read from one, be
it that word or what the variable says. -/
theorem Source.read_of_check {word : String}
    (h : source.check key default read = .ok a)
    (hdefault : read word = .ok default) :
    read ((source.value? key).getD word) = .ok a := by
  rcases Source.check_eq_ok_iff.mp h with ⟨hnone, rfl⟩ | ⟨v, hsome, hv⟩
  · rw [hnone]
    exact hdefault
  · rw [hsome]
    exact hv

end Check

/-- Settings that come from a source, each one by itself. -/
structure ReadFrom (s : Settings) (source : Source) : Prop where
  outputDir : source.check outputDirVariable ({} : Settings).outputDir
    (fun v => .ok (.ofString v)) = .ok s.outputDir
  dimension : source.check dimensionVariable ({} : Settings).dimension
    readDimension = .ok s.dimension
  scanMode : source.check scanModeVariable ({} : Settings).scanMode
    readScanMode = .ok s.scanMode
  duplicates : source.check duplicatesVariable ({} : Settings).duplicates
    readDuplicates = .ok s.duplicates
  debounce : source.check debounceVariable ({} : Settings).debounce
    readDebounce = .ok s.debounce

/-- **Where settings come from.** -/
theorem ofSource_eq_ok_iff {source : Source} {s : Settings} :
    ofSource source = .ok s ↔ s.ReadFrom source := by
  rw [ofSource, Checked.map_eq_ok_iff]
  simp only [Checked.both_eq_ok_iff]
  constructor
  · rintro ⟨p, ⟨houtput, hdimension, hscan, hduplicates, hdebounce⟩, rfl⟩
    exact ⟨houtput, hdimension, hscan, hduplicates, hdebounce⟩
  · intro h
    exact ⟨(s.outputDir, s.dimension, s.scanMode, s.duplicates, s.debounce),
      ⟨h.outputDir, h.dimension, h.scanMode, h.duplicates, h.debounce⟩, rfl⟩

theorem exists_readFrom_of_load {environment : List (String × String)}
    {file : Option (List UInt8)} {s : Settings}
    (h : load environment file = .ok s) :
    ∃ source, source? environment file = some source ∧ s.ReadFrom source := by
  unfold load at h
  split at h
  · cases h
  · split at h
    · cases h
    · next source hsource =>
        split at h
        · next s' hs =>
            cases h
            exact ⟨source, hsource, ofSource_eq_ok_iff.mp hs⟩
        · cases h

/-! ## What the checks let through -/

section Read

variable {v : String}

theorem pos_of_readDimension {i : Int} (h : readDimension v = .ok i) :
    0 < i := by
  unfold readDimension at h
  split at h
  · split at h
    · next hpos =>
        cases h
        exact hpos
    · cases h
  · cases h

theorem ofName?_of_readScanMode {m : ScanMode} (h : readScanMode v = .ok m) :
    ScanMode.ofName? v = some m := by
  unfold readScanMode at h
  split at h
  · next hm =>
      cases h
      exact hm
  · cases h

/-- The name of a policy is taken as it is. -/
theorem ofName?_of_readDuplicates {name : String}
    (h : readDuplicates v = .ok name) :
    v = name ∧ ∃ p, DuplicatePolicy.ofName? name = some p := by
  unfold readDuplicates at h
  split at h
  · next p hp =>
      cases h
      have hname := List.find?_some hp
      exact ⟨(beq_iff_eq.mp hname).symm, p, DuplicatePolicy.ofName?_name p⟩
  · cases h

theorem readDebounce_eq_ok_iff {x : Binary64} :
    readDebounce v = .ok x ↔ Lenient.readNumber v = .ok x ∧ 0 ≤ x := by
  unfold readDebounce
  cases hread : Lenient.readNumber v with
  | error f => simp
  | ok y =>
      by_cases hy : 0 ≤ y
      · simp only [if_pos hy, Except.ok.injEq]
        constructor
        · rintro rfl
          exact ⟨rfl, hy⟩
        · exact And.left
      · simp only [if_neg hy, Except.ok.injEq, reduceCtorEq, false_iff, not_and]
        rintro rfl
        exact hy

/-- Numbers that are too large are read as infinite. -/
example : readDebounce "1e400" = .ok (.infinite false) := by
  decide +kernel

end Read

namespace ReadFrom

variable {s : Settings} {source : Source}

theorem dimension_pos (h : s.ReadFrom source) : 0 < s.dimension :=
  Source.of_check h.dimension (by decide) fun _ _ => pos_of_readDimension

theorem ofName?_scanMode (h : s.ReadFrom source) :
    ScanMode.ofName?
      ((source.value? scanModeVariable).getD ScanMode.firstClose.name) =
        some s.scanMode :=
  ofName?_of_readScanMode (Source.read_of_check h.scanMode rfl)

theorem ofName?_duplicates (h : s.ReadFrom source) :
    (source.value? duplicatesVariable).getD DuplicatePolicy.keep.name =
        s.duplicates ∧
      ∃ p, DuplicatePolicy.ofName? s.duplicates = some p :=
  ofName?_of_readDuplicates (Source.read_of_check h.duplicates rfl)

theorem debounce_nonneg (h : s.ReadFrom source) : 0 ≤ s.debounce :=
  Source.of_check h.debounce (by decide +kernel) fun _ _ hread =>
    (readDebounce_eq_ok_iff.mp hread).2

/-- **Which delays are endless**: those whose variable is read as infinite. -/
theorem not_isFinite_debounce_iff (h : s.ReadFrom source) :
    ¬ s.debounce.IsFinite ↔ ∃ v, source.value? debounceVariable = some v ∧
      Lenient.readNumber v = .ok (.infinite false) := by
  rcases Source.check_eq_ok_iff.mp h.debounce with ⟨hnone, heq⟩ | ⟨v, hv, hread⟩
  · rw [heq, hnone]
    exact iff_of_false (by decide +kernel) (by simp)
  · obtain ⟨hnumber, hnonneg⟩ := readDebounce_eq_ok_iff.mp hread
    rw [hv]
    constructor
    · intro hinfinite
      have heq := (Binary64.isFinite_or_eq hnonneg).resolve_left hinfinite
      exact ⟨v, rfl, heq ▸ hnumber⟩
    · rintro ⟨v', hv', hnumber'⟩
      obtain rfl := Option.some.inj hv'
      rw [Except.ok.inj (hnumber.symm.trans hnumber')]
      exact id

end ReadFrom

/-! ## What settings are good for -/

/-- Under settings that name a policy a sketch always has tables. -/
theorem tablesOf_eq_ok {s : Settings} {p : DuplicatePolicy}
    (hp : DuplicatePolicy.ofName? s.duplicates = some p) {d : Desk}
    (hd : d.settings = s) (text : String) :
    ((Work.tablesOf text).on d).1 =
      .ok (resolveDuplicates p (tables s.scanMode text)) := by
  rw [Work.on_tablesOf, hd, hp]

/-- **What admitted settings are good for.**  Let settings be read from an
environment and a settings file.  The dimension is positive.  The way to scan
and the policy are the ones that are named, and with them every sketch has its
tables.  The delay is not negative, and it is finite unless its variable is read
as infinite.

Let a watcher be made with these settings and be followed by any clock.  If a
thread of the platform can wait for the delay, every relevant event that is not
cancelled is followed by a call at the latest when its wait is outlasted, and
letting the delay pass outlasts it.  But if the delay is infinite or longer than
any thread can wait for, no call is made by the passing of time, whatever finite
instant the clock shows. -/
theorem usable_of_load {environment : List (String × String)}
    {file : Option (List UInt8)} {s : Settings}
    (h : load environment file = .ok s) :
    ∃ source, source? environment file = some source ∧
      0 < s.dimension ∧
      ScanMode.ofName?
        ((source.value? scanModeVariable).getD ScanMode.firstClose.name) =
          some s.scanMode ∧
      (source.value? duplicatesVariable).getD DuplicatePolicy.keep.name =
        s.duplicates ∧
      (∃ p, DuplicatePolicy.ofName? s.duplicates = some p ∧
        ∀ d : Desk, d.settings = s → ∀ text, ((Work.tablesOf text).on d).1 =
          .ok (resolveDuplicates p (tables s.scanMode text))) ∧
      0 ≤ s.debounce ∧
      (¬ s.debounce.IsFinite ↔ ∃ v, source.value? debounceVariable = some v ∧
        Lenient.readNumber v = .ok (.infinite false)) ∧
      ∀ (c : Course Binary64) (o : Order) (d : Desk), d.settings = s → c.ByClock →
        c.start.watcher = Loop.watcher o d →
        (s.debounce ≤ d.platform.longestWait →
          (∀ i k, c.Relevant i → c.Outlasts i k →
            ∃ j, i ≤ j ∧ j ≤ k ∧ c.Called j) ∧
          ∀ i k, i < k → c.steps[k]? = some (.advance s.debounce) →
            (∀ j, i < j → j < k → c.steps[j]? ≠ some .cancel) →
            c.Outlasts i k) ∧
        (¬ (s.debounce.IsFinite ∧ s.debounce ≤ d.platform.longestWait) →
          ∀ k x, c.steps[k]? = some (.advance x) →
            (c.scene (k + 1)).now.IsFinite → ¬ c.Called k) := by
  obtain ⟨source, hsource, hread⟩ := exists_readFrom_of_load h
  obtain ⟨hname, p, hp⟩ := hread.ofName?_duplicates
  have hnonneg := hread.debounce_nonneg
  refine ⟨source, hsource, hread.dimension_pos, hread.ofName?_scanMode, hname,
    ⟨p, hp, fun d hd => tablesOf_eq_ok hp hd⟩, hnonneg,
    hread.not_isFinite_debounce_iff, ?_⟩
  intro c o d hd hclock hwatcher
  have hnew : c.start.watcher.due = none := by
    rw [hwatcher]
    rfl
  have hdelay : c.start.watcher.delay = d.platform.timerWait s.debounce := by
    rw [hwatcher, ← hd]
    rfl
  refine ⟨fun hle => ?_, fun hlong k x hx hnow => ?_⟩
  · rw [Platform.timerWait_of_le hle] at hdelay
    rw [← hdelay] at hnonneg ⊢
    exact ⟨fun i k => Course.exists_call_of_outlasts hclock hnew hnonneg,
      fun i k => Course.outlasts_of_advance hclock hnonneg⟩
  · have hendless := hdelay.trans (Platform.timerWait_eq_infinite hnonneg hlong)
    exact Course.not_called_of_infinite_delay hnew hendless hx hnow

/-- Settings that leave little to the defaults. -/
def oddSettings : Settings :=
  { dimension := 384, scanMode := .balanced, duplicates := "merge",
    debounce := .ofInt 2 }

/-- What they are read from: a variable in small letters, and a settings file
with quotes, a comment and a reference. -/
theorem load_odd :
    load [("instabase_embedding_dim", " +0_384.00 ")]
        (some (Text.encode ("export INSTABASE_WATCH_DEBOUNCE='+2_0e-1' # s\n" ++
          "INSTABASE_EMBEDDING_DIM=0\nINSTABASE_SCAN_MODE = balanced\n" ++
          "INSTABASE_DUPLICATE_POLICY=${POLICY:-merge}").toList)) =
      .ok oddSettings := by
  decide +kernel

/-- A burst of events under these settings, and two seconds of quiet. -/
def oddBurst : Course Binary64 where
  answer := writeResults
  start :=
    ⟨{ settings := oddSettings }, 0,
      Loop.watcher { path := .ofString "w" } { settings := oddSettings }⟩
  steps :=
    [.event { source := "w/a.d2" }, .advance (.ofInt 1),
      .event { source := "w/b.D2" }, .advance (.ofInt 1), .advance (.ofInt 1)]

/-- The last event of the burst is followed by a call. -/
theorem usable_of_load_odd :
    0 < oddSettings.dimension ∧ oddSettings.debounce.IsFinite ∧
      oddBurst.Relevant 2 ∧ ∃ j, 2 ≤ j ∧ j ≤ 4 ∧ oddBurst.Called j := by
  obtain ⟨source, -, hdimension, -, -, -, -, -, hwatch⟩ :=
    usable_of_load load_odd
  have hforward : ∀ d, .advance d ∈ oddBurst.steps → d = .ofInt 1 := by
    intro d hd
    simpa [oddBurst] using hd
  have hclock : oddBurst.ByClock := by
    refine ⟨⟨rfl, Binary64.inFormat_zero false⟩, fun d hd => ?_⟩
    rw [hforward d hd]
    decide +kernel
  have hhits : (oddBurst.scene 2).watcher.hits
      (oddBurst.scene 2).desk.storage { source := "w/b.D2" } =
        .ok [.ofString "w/b.D2"] := by
    decide +kernel
  have hrelevant : oddBurst.Relevant 2 :=
    ⟨_, rfl, _, rfl, Watcher.isRelevant_iff.mpr
      ⟨_, hhits, List.cons_ne_nil _ _⟩⟩
  have hlasts : oddBurst.Outlasts 2 4 := by
    refine ⟨⟨3, by decide, by decide, ?_, by decide +kernel⟩, ⟨_, rfl⟩, ?_⟩
    · rintro j hj hj' ⟨x, hx, e, rfl, -⟩
      obtain rfl : j = 3 := by omega
      cases hx
    · intro j hj hj' hcancel
      obtain rfl : j = 3 := by omega
      cases hcancel
  obtain ⟨hcalls, -⟩ := (hwatch oddBurst _ { settings := oddSettings } rfl hclock
    rfl).1 (by decide +kernel)
  exact ⟨hdimension, trivial, hrelevant, hcalls 2 4 hrelevant hlasts⟩

/-- Settings with an endless delay. -/
def endlessSettings : Settings :=
  { debounce := .infinite false }

/-- Settings with a delay of more than three hundred years. -/
def longSettings : Settings :=
  { debounce := .ofInt 10000000000 }

/-- A watch under some settings: an event, and times that pass. -/
def endlessWatch (s : Settings) (times : List Binary64) : Course Binary64 where
  answer := writeResults
  start :=
    ⟨{ settings := s }, 0, Loop.watcher { path := .ofString "w" } { settings := s }⟩
  steps := .event { source := "w/a.d2" } :: times.map .advance

theorem relevant_endlessWatch (s : Settings) (times : List Binary64) :
    (endlessWatch s times).Relevant 0 := by
  have hhits : ∀ delay : Binary64, Watcher.hits { path := .ofString "w", delay := delay }
      {} { source := "w/a.d2" } = .ok [.ofString "w/a.d2"] :=
    fun _ => rfl
  exact ⟨_, rfl, _, rfl, Watcher.isRelevant_iff.mpr
    ⟨_, hhits _, List.cons_ne_nil _ _⟩⟩

theorem not_called_endlessWatch {s : Settings} {times : List Binary64}
    (hdelay : (endlessWatch s times).start.watcher.delay = .infinite false) {k : Nat}
    (hnow : ((endlessWatch s times).scene (k + 1)).now.IsFinite) :
    ¬ (endlessWatch s times).Called k := by
  intro hcalled
  obtain ⟨x, hx⟩ := hcalled.exists_step
  cases k with
  | zero =>
      have hd : ¬ (endlessWatch s times).start.watcher.delay ≤ 0 := by
        rw [hdelay]
        exact Bool.false_ne_true
      obtain ⟨i, hanswers⟩ := (Course.called_iff rfl hd 0).mp hcalled
      exact absurd hanswers.delivers.1 (Nat.not_lt_zero i)
  | succ k =>
      have hmap : (times.map SceneStep.advance)[k]? = some x := hx
      rw [List.getElem?_map, Option.map_eq_some_iff] at hmap
      obtain ⟨t, -, rfl⟩ := hmap
      exact Course.not_called_of_infinite_delay rfl hdelay hx hnow hcalled

/-- Both are admitted, and however much time passes, there is no call, although the
delay of the latter is finite. -/
theorem load_endless :
    load [(debounceVariable, "inf")] none = .ok endlessSettings ∧
      ¬ endlessSettings.debounce.IsFinite ∧
      load [(debounceVariable, "1e10")] none = .ok longSettings ∧
      longSettings.debounce.IsFinite ∧
      ∀ s ∈ [endlessSettings, longSettings], ∀ times,
        (endlessWatch s times).Relevant 0 ∧
          ∀ k, ((endlessWatch s times).scene (k + 1)).now.IsFinite →
            ¬ (endlessWatch s times).Called k := by
  have hwaits : ∀ s ∈ [endlessSettings, longSettings],
      ({} : Platform).timerWait s.debounce = .infinite false := by
    decide +kernel
  refine ⟨by decide +kernel, id, by decide +kernel, by decide +kernel, ?_⟩
  intro s hs times
  exact ⟨relevant_endlessWatch s times, fun k => not_called_endlessWatch (hwaits s hs)⟩

end Settings

end TableSketch
