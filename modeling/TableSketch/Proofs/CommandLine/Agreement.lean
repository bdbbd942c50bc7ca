import TableSketch.Proofs.CommandLine.Steering
import TableSketch.Proofs.Generation.Keeping
import TableSketch.Proofs.Watch.Closing

/-!
# The commands tell the same story

A command prints what it makes of a schema, or writes it to a file, or writes it among
the results.  All of them begin with the same tables, so that it only remains to see
that no text is changed on its way out.  What is printed loses its escapes, but there
are none in what is made of a schema without (`isSteady_script`, `isSteady_text`).  What
is saved is there afterwards, because whatever is done behind it keeps it
(`Work.Leaves.bind`): lines are printed, and the other results go elsewhere.

A text can only be saved if the storage has room for it.  A command that finds none
fails and says so (`ProgramOutcome.Leaves`); what it could save before is there even
then.

All this is about files whose paths do not begin with a tilde.  Behind one there would
be the name of an account, whose home directory is put in.  If there is no such account,
no command comes to the file, be it there or not (`Command.run_of_no_home`).

## Main results

* `Work.leaves_generateFile` — the results of a schema file.
* `Work.leaves_generate` — a run on a single file.
* `Program.commands_agree` — what the commands make of one schema.
* `Command.run_of_no_home` — files that no command comes to.
-/

namespace TableSketch

/-! ## Paths of files -/

/-- A path whose text does not begin with a tilde stands for itself. -/
theorem Path.expandHome?_eq_self {p : Path} (h : p.text.toList.head? ≠ some '~')
    (home? : String → Option Path) : Path.expandHome? home? p = some p := by
  unfold Path.expandHome?
  split
  · next part rest hanchor hparts =>
      split
      · next account hpart =>
          refine absurd ?_ h
          rw [Path.text, hanchor, hparts]
          show ("/".intercalate (part :: rest)).toList.head? = some '~'
          rw [String.toList_intercalate, List.map_cons,
            Text.intercalate_cons_eq_flatten, List.flatten_cons, hpart]
          rfl
      · rfl
  · rfl

namespace Storage

variable {s s' : Storage} {p q : Path} {node : Node} {text : String}

/-- What is found has a path that can name something. -/
theorem hasTerminator_of_find (h : s.find p = .ok (some node)) :
    p.hasTerminator = false := by
  by_contra hend
  have hlocate := (find_eq_some h).1
  rw [locate, if_pos (by simpa using hend)] at hlocate
  cases hlocate

/-- A text is kept while something is saved elsewhere. -/
theorem Holds.saveText (h : s.Holds p text) (hne : s.place p ≠ s.place q)
    (other : String) : (s.saveText q other).1.Holds p text :=
  (grown_saveText s q other).find_file h hne

theorem saveText_of_snd (h : (s.saveText p text).2 = .ok ()) :
    s.saveText p text = ((s.saveText p text).1, .ok ()) := by
  rw [← h]

end Storage

/-! ## Texts that work leaves behind -/

namespace Work

variable {α β : Type} {room : Prop} {p q : Path} {text : String}
variable {d : Desk} {o : Order} {top : Option Path} {file : Path}

/-- What comes of work leaves a text at a path if there is room for it, and is the
complaint of the storage if there is none. -/
structure Leaves (room : Prop) (p : Path) (text : String)
    (result : Except Failure α × Desk) : Prop where
  saved : room → result.2.storage.Holds p text
  refused : ¬ room → ∃ e, result.1 = .error (.storage e)

/-- It stays there if the rest of the work keeps it. -/
theorem Leaves.bind {w : Work α} {k : α → Work β} (h : Leaves room p text (w.on d))
    (hk : ∀ a, Keeps (fun d => d.storage.Holds p text) (k a)) :
    Leaves room p text ((w >>= k).on d) := by
  rw [on_bind]
  obtain ⟨hsaved, hrefused⟩ := h
  cases hw : w.on d with
  | mk r d₁ =>
      rw [hw] at hsaved hrefused
      cases r with
      | error f =>
          refine ⟨hsaved, fun hroom => ?_⟩
          obtain ⟨e, he⟩ := hrefused hroom
          exact ⟨e, by rw [Except.error.inj he]⟩
      | ok a =>
          refine ⟨fun hroom => hk a d₁ (hsaved hroom), fun hroom => ?_⟩
          obtain ⟨e, he⟩ := hrefused hroom
          cases he

/-- A text that is saved. -/
theorem leaves_store (p : Path) (text : String) (d : Desk) :
    Leaves (∃ s', d.storage.saveText p text = (s', .ok ())) p text
      ((store (·.saveText p text)).on d) := by
  rw [on_store]
  cases hsave : d.storage.saveText p text with
  | mk s r =>
      cases r with
      | ok u => exact ⟨fun _ => Storage.find_saveText hsave, fun h => absurd ⟨s, rfl⟩ h⟩
      | error e =>
          refine ⟨fun ⟨s', h⟩ => ?_, fun _ => ⟨e, rfl⟩⟩
          cases h

/-- Work that begins with saving a text either fails there, or the text is saved and the
rest is done. -/
theorem store_bind_cases (p : Path) (text : String) (k : Unit → Work α) (d : Desk) :
    (∃ e, ((store (·.saveText p text) >>= k).on d).1 = .error (.storage e)) ∨
      ∃ s', d.storage.saveText p text = (s', .ok ()) ∧
        (store (·.saveText p text) >>= k).on d = (k ()).on { d with storage := s' } := by
  cases hsave : d.storage.saveText p text with
  | mk s' r =>
      cases r with
      | ok u => exact Or.inr ⟨s', rfl, on_bind_of_ok (on_saveText_of_ok hsave)⟩
      | error e =>
          left
          rw [on_bind, on_store, hsave]
          exact ⟨e, rfl⟩

theorem keeps_holds_say (p : Path) (text line : String) :
    Keeps (fun d => d.storage.Holds p text) (say line) := by
  intro d hd
  obtain ⟨r, printed, hsay⟩ := exists_on_say line d
  rw [hsay]
  exact hd

theorem keeps_holds_store (hne : ∀ s : Storage, s.place p ≠ s.place q)
    (text other : String) :
    Keeps (fun d => d.storage.Holds p text) (store (·.saveText q other)) := by
  intro d hd
  rw [on_store]
  exact Storage.Holds.saveText hd (hne d.storage) other

/-- Four lines are printed at the end. -/
theorem keeps_holds_report (p : Path) (text l₁ l₂ l₃ l₄ : String) (a : α) :
    Keeps (fun d => d.storage.Holds p text)
      (do say l₁; say l₂; say l₃; say l₄; pure a : Work α) := by
  refine Keeps.bind (keeps_holds_say p text l₁) fun _ => ?_
  refine Keeps.bind (keeps_holds_say p text l₂) fun _ => ?_
  refine Keeps.bind (keeps_holds_say p text l₃) fun _ => ?_
  exact Keeps.bind (keeps_holds_say p text l₄) fun _ => Keeps.pure a

/-! ## The results of a schema file -/

section Results

variable {n : ResultNames} {dir : Path} {texts : ResultTexts} {k : Work α}

/-- The script is there even if the other results cannot be saved. -/
theorem leaves_script (hn : n.Apart) (dir : Path) (texts : ResultTexts) (d : Desk)
    (hk : Keeps (fun d => d.storage.Holds (n.inDir dir).script texts.script) k) :
    Leaves (∃ s', d.storage.saveText (n.inDir dir).script texts.script = (s', .ok ()))
      (n.inDir dir).script texts.script
      ((do
        store (·.saveText (n.inDir dir).script texts.script)
        store (·.saveText (n.inDir dir).preview texts.preview)
        store (·.saveText (n.inDir dir).prompt texts.prompt)
        k : Work α).on d) := by
  refine (leaves_store _ _ d).bind fun _ => ?_
  refine Keeps.bind ?_ fun _ => Keeps.bind ?_ fun _ => hk
  · exact keeps_holds_store (fun s => (Storage.place_ne_of_apart hn s dir).1) _ _
  · exact keeps_holds_store (fun s => (Storage.place_ne_of_apart hn s dir).2.1) _ _

/-- The prompt is there if all results can be saved. -/
theorem leaves_prompt (hn : n.Apart) (dir : Path) (texts : ResultTexts) (d : Desk)
    (hk : Keeps (fun d => d.storage.Holds (n.inDir dir).prompt texts.prompt) k) :
    Leaves (∃ s', d.storage.Saves (n.inDir dir) texts s')
      (n.inDir dir).prompt texts.prompt
      ((do
        store (·.saveText (n.inDir dir).script texts.script)
        store (·.saveText (n.inDir dir).preview texts.preview)
        store (·.saveText (n.inDir dir).prompt texts.prompt)
        k : Work α).on d) := by
  constructor
  · rintro ⟨s', hsaves⟩
    rw [on_stores hsaves]
    exact hk _ (hsaves.holdsResults hn).2.prompt
  · intro hroom
    rcases store_bind_cases _ _ _ d with hfails | ⟨s₁, hscript, hrun⟩
    · exact hfails
    rw [hrun]
    rcases store_bind_cases _ _ _ _ with hfails | ⟨s₂, hpreview, hrun⟩
    · exact hfails
    rw [hrun]
    rcases store_bind_cases _ _ _ _ with hfails | ⟨s₃, hprompt, -⟩
    · exact hfails
    · exact absurd ⟨s₃, s₁, s₂, hscript, hpreview, hprompt⟩ hroom

/-- **The script and the prompt of a schema file** are left behind. -/
theorem leaves_generateFile {content : List UInt8} {policy : DuplicatePolicy}
    (ho : o.names.Apart) (hfile : d.storage.find file = .ok (some (.file content)))
    (hpolicy : DuplicatePolicy.ofName? d.settings.duplicates = some policy)
    (top : Option Path) :
    let ts := resolveDuplicates policy
      (tables d.settings.scanMode (Storage.sketchText content))
    let texts := ResultTexts.ofTables ts o.flags d.settings.dimension
    let r := o.names.inDir (o.dirOf d.settings top file)
    Leaves (∃ s', d.storage.saveText r.script texts.script = (s', .ok ()))
        r.script texts.script ((generateFile o top file).on d) ∧
      Leaves (∃ s', d.storage.Saves r texts s')
        r.prompt texts.prompt ((generateFile o top file).on d) := by
  intro ts texts r
  have hread : (ask (·.readSketch file)).on d =
      (.ok (Storage.sketchText content), d) :=
    on_ask_of_ok (Storage.readSketch_of_find hfile)
  have htables := on_tablesOf (Storage.sketchText content) d
  rw [hpolicy] at htables
  let d₁ : Desk := { d with log := d.log ++
    (remarks d.settings.scanMode (Storage.sketchText content)).map Remark.message }
  unfold generateFile readSketch
  rw [on_bind_of_ok hread, on_bind_of_ok htables, on_bind_of_ok (on_get _)]
  constructor
  · exact leaves_script ho _ texts d₁ (keeps_holds_report _ _ _ _ _ _ _)
  · exact leaves_prompt ho _ texts d₁ (keeps_holds_report _ _ _ _ _ _ _)

end Results

/-! ## A run on a single file -/

/-- What the results of a single file leave behind is left behind by a run on it. -/
theorem leaves_generate {content : List UInt8}
    (hpath : Path.expandHome? d.storage.home? o.path = some file)
    (hfile : d.storage.find file = .ok (some (.file content)))
    (h : ∀ printed, Leaves room p text
      ((generateFile o none file).on { d with printed := printed })) :
    Leaves room p text ((generate o).on d) := by
  have hsingle : d.storage.isFile file = .ok true :=
    Storage.isFile_iff.mpr ⟨content, hfile⟩
  have hfinds : d.Finds o file none [file] := by
    refine ⟨hpath, ?_, true, hsingle, rfl⟩
    simp only [Discovery.find, hfile]
    rfl
  obtain ⟨printed, hsay⟩ := exists_on_say_of_sayable (sayable_foundLine 1 d.columns)
  rw [generate_of_finds hfinds hfile, writeAll, List.length_singleton,
    on_bind_of_ok hsay, List.mapM_cons]
  exact (h printed).bind fun _ => Keeps.bind (Keeps.pure _) fun _ => Keeps.pure _

end Work

namespace Command

open Work

variable {room : Prop} {p : Path} {text schema : String} {content : List UInt8}
variable {node : Node} {d : Desk}

/-- What is written to a file. -/
theorem leaves_sql {ts : List Table} {s : Surroundings} {d d₁ : Desk}
    (hload : (loadTables s.input schema).on d = (.ok ts, d₁)) (names : List String)
    (out : String) :
    let script := Ddl.script ts (Flags.ofNames names) d₁.settings.dimension ++ "\n"
    Leaves (∃ s', d₁.storage.saveText (.ofString out) script = (s', .ok ()))
      (.ofString out) script (((Command.sql schema names (some out)).work s).on d) := by
  intro script
  have hscript : (scriptOf ts names).on d₁ =
      (.ok (Ddl.script ts (Flags.ofNames names) d₁.settings.dimension), d₁) := rfl
  unfold work
  rw [on_bind_of_ok hload, on_bind_of_ok hscript]
  show Leaves _ _ _ ((saveScript _ out >>= fun _ => pure []).on d₁)
  refine Leaves.bind ?_ fun _ => Keeps.pure _
  unfold saveScript
  exact Leaves.bind (leaves_store (.ofString out) script d₁) fun _ =>
    keeps_holds_say _ _ _

/-- What is there can be worked on. -/
theorem on_requirePath {o : Order} (h : d.storage.find o.path = .ok (some node))
    (complaint : String) : (requirePath complaint o).on d = (.ok (), d) := by
  have hthere : (ask (·.isThere o.path)).on d = (.ok true, d) := by
    refine on_ask_of_ok ?_
    rw [Storage.isThere, h]
    rfl
  unfold requirePath
  rw [on_bind_of_ok hthere]
  rfl

/-- What is written among the results. -/
theorem leaves_generate_command {d : Desk}
    (hpath : Path.expandHome? d.storage.home? (.ofString schema) =
      some (.ofString schema))
    (hfile : d.storage.find (.ofString schema) = .ok (some (.file content)))
    (names : List String) (s : Surroundings)
    (h : ∀ printed, Leaves room p text
      ((generateFile (order schema names none) none (.ofString schema)).on
        { d with printed := printed })) :
    Leaves room p text (((Command.generate schema names none).work s).on d) := by
  unfold work
  dsimp only
  rw [on_bind_of_ok (on_requirePath (o := order schema names none) hfile _)]
  refine Leaves.bind ?_ fun _ => Keeps.pure _
  unfold generateResults
  refine Leaves.bind (leaves_generate hpath hfile h) fun _ => ?_
  exact Keeps.get_bind fun _ _ => keeps_holds_say _ _ _

end Command

/-! ## Files out of reach -/

/-- Nothing is generated for a path that begins in a home directory that there is not. -/
theorem Work.generate_of_no_home {d : Desk} {o : Order}
    (hhome : Path.expandHome? d.storage.home? o.path = none)
    (hend : o.path.hasTerminator = false) :
    (generate o).on d = (.error .noHome, d) := by
  unfold generate
  rw [on_bind, on_expandHome_of_none hhome hend]

namespace Command

open Work

variable {schema : String} {node : Node} {d : Desk} {cmd : Command}

/-- The file or directory that a command works on. -/
def operand? : Command → Option String
  | .sql operand .. | .prompt operand _ | .preview operand .. => some operand
  | .generate operand .. | .watch operand .. => some operand
  | .help _ => none

theorem on_readSchema_of_no_home (hne : schema ≠ "-")
    (hhome : Path.expandHome? d.storage.home? (.ofString schema) = none)
    (hend : (Path.ofString schema).hasTerminator = false) (input : List UInt8) :
    (readSchema input schema).on d = (.error .noHome, d) := by
  have hdash : ¬ (schema == "-") = true := by simpa using hne
  unfold readSchema
  rw [if_neg hdash, on_bind, on_expandHome_of_none hhome hend]

/-- Without first results there is nothing to watch. -/
theorem on_watchPath_of_generate_eq_error {o : Order} {f : Failure} {d' : Desk}
    (h : (Work.generate o).on d = (.error f, d'))
    (script : List (List (SceneStep Binary64))) (hf : f ≠ .interrupted) :
    (watchPath o script).on d = (.error f, d') := by
  have hrun := Loop.run_of_generate_eq_error h script .interrupted
  show watchPath o script d = _
  simp only [watchPath, hrun, if_neg hf]

/-- **Files that no command comes to.**  Where a path begins with a tilde and what stands
behind it is no account, every command fails, although it may be the path of a file. -/
theorem run_of_no_home (hoperand : cmd.operand? = some schema) (hne : schema ≠ "-")
    (hthere : d.storage.find (.ofString schema) = .ok (some node))
    (hhome : Path.expandHome? d.storage.home? (.ofString schema) = none)
    (s : Surroundings) :
    cmd.run s d = ({ failure := some (.work .noHome) }, d) := by
  have hend := Storage.hasTerminator_of_find hthere
  have hread := on_readSchema_of_no_home hne hhome hend s.input
  cases cmd with
  | sql operand vector out =>
      obtain rfl := Option.some.inj hoperand
      exact (AwaitsSchema.sql vector out).run_of_error hread
  | prompt operand vector =>
      obtain rfl := Option.some.inj hoperand
      exact (AwaitsSchema.prompt vector).run_of_error hread
  | preview operand vector asJson =>
      obtain rfl := Option.some.inj hoperand
      exact (AwaitsSchema.preview vector asJson).run_of_error hread
  | generate operand vector outDir =>
      obtain rfl := Option.some.inj hoperand
      have hrun := generate_of_no_home (o := order operand vector outDir) hhome hend
      unfold run work
      dsimp only
      rw [on_bind_of_ok (on_requirePath (o := order operand vector outDir) hthere _),
        on_bind, generateResults, on_bind, hrun]
  | watch operand vector outDir =>
      obtain rfl := Option.some.inj hoperand
      unfold run work
      dsimp only
      rw [on_bind_of_ok (on_requirePath (o := order operand vector outDir) hthere _),
        on_watchPath_of_generate_eq_error (generate_of_no_home hhome hend) s.script nofun]
  | help command => cases hoperand

/-- A file in the working directory whose name begins with a tilde. -/
def tildeDesk : Desk where
  storage.tree := ⟨[(["~a.d2"], .file [])]⟩

/-- A dot in front of the name does not help, because it is no part of the path. -/
theorem run_of_no_home_of_tildeDesk :
    tildeDesk.storage.isFile (.ofString "./~a.d2") = .ok true ∧
      ∀ cmd : Command, cmd.operand? = some "./~a.d2" → ∀ s,
        cmd.run s tildeDesk = ({ failure := some (.work .noHome) }, tildeDesk) := by
  have hthere : tildeDesk.storage.find (.ofString "./~a.d2") =
      .ok (some (.file [])) := by
    decide
  exact ⟨by decide, fun _ hoperand => run_of_no_home hoperand (by decide) hthere (by decide)⟩

end Command

/-! ## Command lines -/

namespace ProgramOutcome

/-- A command line has printed a text and done nothing to the storage. -/
structure Prints (o : ProgramOutcome) (d : Desk) (text : String) : Prop where
  succeeds : Program.exitStatus o.outcome = 0
  printed : o.desk.printed = d.printed ++ text
  storage : o.desk.storage = d.storage

/-- A command line has left a text at a path if there is room for it, and has failed
with the complaint of the storage if there is none. -/
structure Leaves (o : ProgramOutcome) (room : Prop) (p : Path) (text : String) :
    Prop where
  saved : room → o.desk.storage.Holds p text
  refused : ¬ room → ∃ e, o.outcome.failure = some (.work (.storage e))

end ProgramOutcome

namespace Program

open Command

variable {c : CommandName} {args : List String} {cmd : Command} {schema : String}
variable {content : List UInt8} {policy : DuplicatePolicy} {d d₁ : Desk} {room : Prop}
variable {p : Path} {s : Surroundings}

/-- A command that prints a text without escapes. -/
theorem prints_line {text : List Table → Int → String} {ts : List Table}
    (hread : c.read args = .ok cmd) (hcmd : cmd.Prints schema text)
    (hload : (loadTables s.input schema).on d = (.ok ts, d₁))
    (hprinted : d₁.printed = d.printed) (hstorage : d₁.storage = d.storage)
    (hsteady : IsSteady (text ts d₁.settings.dimension)) (verbose : Bool)
    (log : LogState) :
    (run (line verbose c args) s d log).Prints d
      (text ts d₁.settings.dimension ++ "\n") := by
  rw [run_line hread, Command.run, hcmd.on_work hload,
    Work.echoed_of_isSteady hsteady, hprinted]
  exact ⟨rfl, rfl, hstorage⟩

/-- A command that saves a text. -/
theorem leaves_line {text : String} (hread : c.read args = .ok cmd)
    (h : Work.Leaves room p text ((cmd.work s).on d)) (verbose : Bool)
    (log : LogState) : (run (line verbose c args) s d log).Leaves room p text := by
  rw [run_line hread, Command.run]
  obtain ⟨hsaved, hrefused⟩ := h
  cases hwork : (cmd.work s).on d with
  | mk r d₁ =>
      rw [hwork] at hsaved hrefused
      cases r with
      | error f =>
          refine ⟨hsaved, fun hroom => ?_⟩
          obtain ⟨e, he⟩ := hrefused hroom
          exact ⟨e, by rw [Except.error.inj he]⟩
      | ok trace =>
          refine ⟨hsaved, fun hroom => ?_⟩
          obtain ⟨e, he⟩ := hrefused hroom
          cases he

/-- **The commands tell the same story** about a schema file without escapes: the script
that is printed is the one that is written, alone or among the results; so is the
prompt; and the document is that of the same tables.  As an operand the file does not
begin with a dash, and as a path it does not begin with a tilde.  For the path this is
not settled by a dot in front, because `./~a` is the same path as `~a`
(`Command.run_of_no_home_of_tildeDesk`). -/
theorem commands_agree (hoption : schema.toList.head? ≠ some '-')
    (hhome : (Path.ofString schema).text.toList.head? ≠ some '~')
    (hfile : d.storage.find (.ofString schema) = .ok (some (.file content)))
    (hescape : 0x1B ∉ content)
    (hpolicy : DuplicatePolicy.ofName? d.settings.duplicates = some policy)
    (names : List String) (verbose : Bool) (s : Surroundings) (log : LogState) :
    let ts := resolveDuplicates policy
      (tables d.settings.scanMode (Storage.sketchText content))
    let texts := ResultTexts.ofTables ts (Flags.ofNames names) d.settings.dimension
    let results := ({} : ResultNames).inDir
      (resultDir d.settings.outputDir none (.ofString schema))
    let after := fun c option =>
      run (line verbose c (schema :: option ++ Arguments.flagging names)) s d log
    (after .sql []).Prints d texts.script ∧
      (∀ out, (after .sql ["--out", out]).Leaves
        (∃ s', d.storage.saveText (.ofString out) texts.script = (s', .ok ()))
        (.ofString out) texts.script) ∧
      (after .generate []).Leaves
        (∃ s', d.storage.saveText results.script texts.script = (s', .ok ()))
        results.script texts.script ∧
      (after .prompt []).Prints d texts.prompt ∧
      (after .generate []).Leaves (∃ s', d.storage.Saves results texts s')
        results.prompt texts.prompt ∧
      (after .preview ["--json"]).Prints d
        ((SchemaDocument.ofTables ts (Flags.ofNames names)).text ++ "\n") := by
  intro ts texts results after
  have hoperand : IsOperand schema := .inr hoption
  have hne : schema ≠ "-" := by
    rintro rfl
    exact hoption rfl
  have hpath := Path.expandHome?_eq_self hhome d.storage.home?
  have hload := on_loadTables (on_readSchema_file hne hpath hfile s.input) hpolicy
  have hsteady : ∀ t ∈ ts, t.IsSteady :=
    isSteady_of_mem_resolved (isSteady_sketchText hescape)
  have hscript : IsSteady (Ddl.script ts (Flags.ofNames names) d.settings.dimension) :=
    isSteady_script hsteady _ _
  have hgenerate := CommandName.read_generate hoperand
    (Storage.hasTerminator_of_find hfile) names
  have hfiles := fun printed => Work.leaves_generateFile
    (o := order schema names none) (d := { d with printed := printed })
    ResultNames.apart_default hfile hpolicy none
  refine ⟨?_, fun out => ?_, ?_, ?_, ?_, ?_⟩
  · exact prints_line (CommandName.read_sql hoperand names) (.sql schema names) hload
      rfl rfl hscript verbose log
  · cases hend : (Path.ofString out).hasTerminator with
    | true =>
        have hread := CommandName.read_sql_out hoperand out names
        rw [if_pos hend] at hread
        have hrun : after .sql ["--out", out] = _ := run_line_error hread ..
        rw [hrun]
        refine ⟨fun ⟨s', hsave⟩ => ?_, fun _ => ⟨_, rfl⟩⟩
        rw [Storage.hasTerminator_of_find (Storage.find_saveText hsave)] at hend
        cases hend
    | false =>
        have hread := CommandName.read_sql_out hoperand out names
        rw [if_neg (by simp [hend])] at hread
        exact leaves_line hread (leaves_sql hload names out) verbose log
  · exact leaves_line hgenerate (leaves_generate_command hpath hfile names s
      fun printed => (hfiles printed).1) verbose log
  · exact prints_line (CommandName.read_prompt hoperand names) (.prompt schema names)
      hload rfl rfl (isSteady_prompt hscript) verbose log
  · exact leaves_line hgenerate (leaves_generate_command hpath hfile names s
      fun printed => (hfiles printed).2) verbose log
  · exact prints_line (CommandName.read_preview_json hoperand names)
      (.preview schema names) hload rfl rfl (isSteady_text _) verbose log

/-- A schema file with a byte order mark, a byte that belongs to no character, and all
kinds of line ends. -/
def motleyContent : List UInt8 :=
  [0xEF, 0xBB, 0xBF, 0x0A] ++
    Text.encode (r"T: {shape: sql_table" ++ "\r\nid: int\r").toList ++ [0xFF] ++
    Text.encode ("n:\ttext" ++ r"}").toList

def motleyDesk : Desk where
  storage.tree := ⟨[(["w"], .dir), (["w", "a.d2"], .file motleyContent)]⟩

def motleyTables : List Table :=
  [⟨"T", [⟨"id", "int"⟩, ⟨"n", "text"⟩]⟩]

def motleyTexts : ResultTexts :=
  .ofTables motleyTables (Flags.ofNames ["T"]) motleyDesk.settings.dimension

def motleyResults : Results :=
  ({} : ResultNames).inDir (resultDir motleyDesk.settings.outputDir none
    (.ofString "w/a.d2"))

/-- What evaluation tells about them. -/
theorem checked_motleyDesk :
    motleyDesk.storage.find (.ofString "w/a.d2") =
        .ok (some (.file motleyContent)) ∧
      0x1B ∉ motleyContent ∧
      resolveDuplicates .keep (tables motleyDesk.settings.scanMode
        (Storage.sketchText motleyContent)) = motleyTables ∧
      motleyTexts.script =
        "CREATE TABLE T (\n  id INT,\n  n TEXT,\n  embedding F32_BLOB(768)\n);\n" := by
  decide +kernel

/-- There is room for a file of its own and for the results. -/
theorem room_motleyDesk :
    (∃ s', motleyDesk.storage.saveText (.ofString "o.sql") motleyTexts.script =
        (s', .ok ())) ∧
      ∃ s', motleyDesk.storage.Saves motleyResults motleyTexts s' := by
  let s₁ := (motleyDesk.storage.saveText motleyResults.script motleyTexts.script).1
  let s₂ := (s₁.saveText motleyResults.preview motleyTexts.preview).1
  have hroom : (motleyDesk.storage.saveText (.ofString "o.sql")
        motleyTexts.script).2 = .ok () ∧
      (motleyDesk.storage.saveText motleyResults.script motleyTexts.script).2 =
        .ok () ∧
      (s₁.saveText motleyResults.preview motleyTexts.preview).2 = .ok () ∧
      (s₂.saveText motleyResults.prompt motleyTexts.prompt).2 = .ok () := by
    decide +kernel
  obtain ⟨hout, hscript, hpreview, hprompt⟩ := hroom
  exact ⟨⟨_, Storage.saveText_of_snd hout⟩, _, s₁, s₂, Storage.saveText_of_snd hscript,
    Storage.saveText_of_snd hpreview, Storage.saveText_of_snd hprompt⟩

theorem commands_agree_of_motleyDesk :
    let script :=
      "CREATE TABLE T (\n  id INT,\n  n TEXT,\n  embedding F32_BLOB(768)\n);\n"
    let after := fun c option =>
      run (line true c ("w/a.d2" :: option ++ Arguments.flagging ["T"])) {}
        motleyDesk {}
    (after .sql []).desk.printed = script ∧
      (after .sql ["--out", "o.sql"]).desk.storage.Holds (.ofString "o.sql") script ∧
      (after .generate []).desk.storage.Holds motleyResults.script script ∧
      (after .generate []).desk.storage.Holds motleyResults.prompt
        (after .prompt []).desk.printed ∧
      (after .preview ["--json"]).desk.printed =
        (SchemaDocument.ofTables motleyTables (Flags.ofNames ["T"])).text ++ "\n" := by
  obtain ⟨hfile, hescape, htables, hscript⟩ := checked_motleyDesk
  obtain ⟨hout, hresults⟩ := room_motleyDesk
  have hoption : "w/a.d2".toList.head? ≠ some '-' := by decide
  have hpolicy : DuplicatePolicy.ofName? motleyDesk.settings.duplicates =
      some .keep := by
    decide
  have hprinted : ∀ text, motleyDesk.printed ++ text = text :=
    fun _ => String.empty_append
  have hagree :=
    commands_agree hoption (by decide) hfile hescape hpolicy ["T"] true {} {}
  rw [htables] at hagree
  dsimp only at hagree ⊢
  obtain ⟨hsql, hfiles, hgenerate, hprompt, hwritten, hpreview⟩ := hagree
  rw [← hscript]
  refine ⟨?_, ?_, ?_, ?_, ?_⟩
  · rw [hsql.printed, hprinted]
    rfl
  · exact (hfiles "o.sql").saved hout
  · obtain ⟨-, s₁, -, hsave, -⟩ := hresults
    exact hgenerate.saved ⟨s₁, hsave⟩
  · rw [hprompt.printed, hprinted]
    exact hwritten.saved hresults
  · rw [hpreview.printed, hprinted]

end Program

end TableSketch
