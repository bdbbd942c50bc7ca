import TableSketch.Generation
import TableSketch.Proofs.Storage.Writing

/-!
# Work on a desk

Work that is made of parts succeeds if every part does, each on the desk that
the one in front of it left (`Work.exists_of_on_bind`).  The parts that results
are made of do one thing each: they ask the storage something, change it, print,
or write to the log.  Here is what each of them leaves behind, whether it fails
or not, so that no other proof has to look into them.

Settings are never touched, and files are changed at places that can be named.
`Desk.Grown` says so of a desk before and after.

## Main results

* `Work.exists_of_on_bind` — the parts of work that succeeds.
* `Work.on_ask`, `Work.on_store`, `Work.exists_on_say`, `Work.on_tablesOf` —
  what the parts do.
* `Work.fst_on_say` — printing depends on the width of the console alone.
-/

namespace TableSketch

/-- A desk behind some work.  The settings are the same, and files were changed
at some places at most. -/
structure Desk.Grown (L : Location → Prop) (d d' : Desk) : Prop where
  settings : d'.settings = d.settings
  storage : d.storage.Grown L d'.storage

namespace Desk.Grown

variable {d d' d'' : Desk} {L M : Location → Prop}

theorem refl (L : Location → Prop) (d : Desk) : Grown L d d :=
  ⟨rfl, .refl L d.storage⟩

theorem trans (h : Grown L d d') (h' : Grown L d' d'') : Grown L d d'' :=
  ⟨h'.settings.trans h.settings, h.storage.trans h'.storage⟩

theorem mono (h : Grown L d d') (hLM : ∀ l, L l → M l) : Grown M d d' :=
  ⟨h.settings, h.storage.mono hLM⟩

end Desk.Grown

namespace Work

variable {α β : Type} {w : Work α} {k : α → Work β} {d d' : Desk} {b : β}

/-! ## Parts of work -/

theorem on_bind (w : Work α) (k : α → Work β) (d : Desk) :
    (w >>= k).on d = match w.on d with
      | (.ok a, d') => (k a).on d'
      | (.error f, d') => (.error f, d') := by
  have hrun : (w >>= k).on d =
      StateT.run (ExceptT.bindCont k (w.on d).1) (w.on d).2 := rfl
  rw [hrun]
  obtain ⟨r, d'⟩ := w.on d
  cases r with
  | ok a => rfl
  | error f => rfl

/-- Work that succeeds has succeeded in its first part and in the rest. -/
theorem exists_of_on_bind (h : (w >>= k).on d = (.ok b, d')) :
    ∃ a d₁, w.on d = (.ok a, d₁) ∧ (k a).on d₁ = (.ok b, d') := by
  rw [on_bind] at h
  split at h
  · next a d₁ hw => exact ⟨a, d₁, hw, h⟩
  · cases h

theorem on_get (d : Desk) : (get : Work Desk).on d = (.ok d, d) := rfl

theorem on_note (messages : List String) (d : Desk) :
    (note messages).on d = (.ok (), { d with log := d.log ++ messages }) := rfl

/-- A question changes nothing. -/
theorem on_ask (question : Storage → Except StorageError α) (d : Desk) :
    (ask question).on d = ((question d.storage).mapError .storage, d) := by
  rw [ask, on_bind, on_get]
  cases h : question d.storage with
  | ok a => simp only [h]; rfl
  | error e => simp only [h]; rfl

/-- What is done to the storage is done, whether it fails or not. -/
theorem on_store (f : Storage → Storage × Except StorageError Unit)
    (d : Desk) :
    (store f).on d = ((f d.storage).2.mapError .storage,
      { d with storage := (f d.storage).1 }) := by
  rw [store, on_bind, on_get]
  cases h : f d.storage with
  | mk s r =>
      cases r with
      | ok a => simp only [h]; rfl
      | error e => simp only [h]; rfl

/-- Printing changes nothing but what is printed. -/
theorem exists_on_say (text : String) (d : Desk) :
    ∃ r printed, (say text).on d = (r, { d with printed := printed }) := by
  unfold say
  cases Console.printed text with
  | error f => exact ⟨_, _, rfl⟩
  | ok p =>
      dsimp only
      rw [on_bind, on_get]
      dsimp only
      cases p.drawFault? d.columns .fold with
      | some f => exact ⟨_, _, rfl⟩
      | none => exact ⟨_, _, rfl⟩

/-- The tables of a sketch depend on the settings; remarks go to the log. -/
theorem on_tablesOf (text : String) (d : Desk) :
    (tablesOf text).on d =
      (match DuplicatePolicy.ofName? d.settings.duplicates with
        | some p =>
          .ok (resolveDuplicates p (tables d.settings.scanMode text))
        | none => .error (.unknownPolicy d.settings.duplicates),
      { d with
        log := d.log ++
          (remarks d.settings.scanMode text).map Remark.message }) := by
  unfold tablesOf
  rw [on_bind, on_get]
  show (note _ >>= fun _ => _ : Work (List Table)).on d = _
  rw [on_bind, on_note]
  show (match DuplicatePolicy.ofName? d.settings.duplicates with
    | some p => pure (resolveDuplicates p (tables d.settings.scanMode text))
    | none => throw (.unknownPolicy d.settings.duplicates) :
      Work (List Table)).on _ = _
  cases DuplicatePolicy.ofName? d.settings.duplicates with
  | some p => rfl
  | none => rfl

/-! ## Parts that succeed -/

theorem on_bind_of_ok {a : α} {d₁ : Desk} (h : w.on d = (.ok a, d₁)) :
    (w >>= k).on d = (k a).on d₁ := by
  rw [on_bind, h]

theorem on_ask_of_ok {question : Storage → Except StorageError α} {a : α}
    (h : question d.storage = .ok a) : (ask question).on d = (.ok a, d) := by
  rw [on_ask, h]
  rfl

theorem of_ask_eq_ok {question : Storage → Except StorageError α} {a : α}
    (h : (ask question).on d = (.ok a, d')) :
    question d.storage = .ok a ∧ d' = d := by
  rw [on_ask] at h
  cases hq : question d.storage with
  | ok a' =>
      rw [hq] at h
      cases h
      exact ⟨rfl, rfl⟩
  | error e =>
      rw [hq] at h
      cases h

theorem on_saveText_of_ok {p : Path} {text : String} {s' : Storage}
    (h : d.storage.saveText p text = (s', .ok ())) :
    (store (·.saveText p text)).on d = (.ok (), { d with storage := s' }) := by
  rw [on_store, h]
  rfl

theorem of_store_eq_ok {f : Storage → Storage × Except StorageError Unit}
    (h : (store f).on d = (.ok (), d')) :
    f d.storage = (d'.storage, .ok ()) ∧
      d' = { d with storage := d'.storage } := by
  rw [on_store] at h
  cases hf : f d.storage with
  | mk s result =>
      rw [hf] at h
      cases result with
      | error e => cases h
      | ok u =>
          cases h
          exact ⟨rfl, rfl⟩

theorem of_tablesOf_eq_ok {text : String} {ts : List Table}
    (h : (tablesOf text).on d = (.ok ts, d')) :
    ∃ policy, DuplicatePolicy.ofName? d.settings.duplicates = some policy ∧
      ts = resolveDuplicates policy (tables d.settings.scanMode text) ∧
      d' = { d with
        log := d.log ++
          (remarks d.settings.scanMode text).map Remark.message } := by
  rw [on_tablesOf] at h
  cases hpolicy : DuplicatePolicy.ofName? d.settings.duplicates with
  | none =>
      rw [hpolicy] at h
      cases h
  | some policy =>
      rw [hpolicy] at h
      cases h
      exact ⟨policy, rfl, rfl, rfl⟩

/-! ## Printing -/

/-- A console of some width takes a line. -/
def Sayable (columns : Nat) (text : String) : Prop :=
  ((say text).on { columns := columns }).1 = .ok ()

instance decidableSayable (columns : Nat) (text : String) :
    Decidable (Sayable columns text) :=
  inferInstanceAs (Decidable (_ = _))

/-- Whether a line is taken depends on the width of the console alone. -/
theorem fst_on_say (text : String) (d : Desk) :
    ((say text).on d).1 = ((say text).on { columns := d.columns }).1 := by
  unfold say
  cases Console.printed text with
  | error f => rfl
  | ok p =>
      dsimp only
      rw [on_bind, on_bind, on_get, on_get]
      dsimp only
      cases p.drawFault? d.columns .fold with
      | some f => rfl
      | none => rfl

/-- A line in which all styles can be drawn is taken everywhere. -/
theorem sayable_of_badSpans_nil {text : String}
    (h : (Console.printed text).map (·.badSpans) = .ok []) (columns : Nat) :
    Sayable columns text := by
  rw [Sayable, say]
  cases hprinted : Console.printed text with
  | error f =>
      rw [hprinted] at h
      cases h
  | ok p =>
      rw [hprinted] at h
      have hdraw := Console.Printed.drawFault?_eq_none (Except.ok.inj h) columns .fold
      dsimp only
      rw [on_bind, on_get]
      dsimp only
      rw [hdraw]
      rfl

theorem exists_on_say_of_sayable {text : String} (h : Sayable d.columns text) :
    ∃ printed, (say text).on d = (.ok (), { d with printed := printed }) := by
  obtain ⟨r, printed, hsay⟩ := exists_on_say text d
  have hfst := fst_on_say text d
  rw [hsay, h] at hfst
  obtain rfl : r = .ok () := hfst
  exact ⟨printed, hsay⟩

theorem of_say_eq_ok {text : String} (h : (say text).on d = (.ok (), d')) :
    Sayable d.columns text ∧ ∃ printed, d' = { d with printed := printed } := by
  constructor
  · rw [Sayable, ← fst_on_say, h]
  · obtain ⟨r, printed, hsay⟩ := exists_on_say text d
    rw [hsay] at h
    exact ⟨printed, (congrArg Prod.snd h).symm⟩

end Work

end TableSketch
