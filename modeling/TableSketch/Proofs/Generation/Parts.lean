import TableSketch.Proofs.Console.Markup
import TableSketch.Proofs.Generation.Work
import TableSketch.Proofs.Storage.Search

/-!
# What runs are made of

The results of a schema file are written if the file can be read, the policy for
duplicates is known, the three files can be saved, and the console takes the lines
that report them; and if they are written, all of this holds (`Work.exists_parts`,
`Work.generateFile_of_parts`).  So whether they are written can be told from the
storage, the settings and the width of the console, and it does not matter what has
been printed or logged before.

A run either stops before it has changed anything, or it says how many schema files
it has found and then writes results for one after the other
(`Work.generate_cases`).

## Main results

* `Work.Parts` — what the results of a schema file need.
* `Work.exists_parts`, `Work.generateFile_of_parts` — that this is all.
* `Work.generate_cases` — the two ways of a run.
-/

namespace TableSketch

/-- The directory for the results of a schema file. -/
def Order.dirOf (o : Order) (s : Settings) (root : Option Path)
    (file : Path) : Path :=
  resultDir (o.base s) root file

/-- The schema files that an order stands for, with the path that they are searched
at, and again as the top of the search if it is a directory. -/
structure Desk.Finds (d : Desk) (o : Order) (path : Path) (top : Option Path)
    (files : List Path) : Prop where
  expands : Path.expandHome? d.storage.home? o.path = some path
  finds : ({} : Discovery).find d.storage path = .ok files
  searches : ∃ single, d.storage.isFile path = .ok single ∧
    top = if single then none else some path

/-- An order stands for one list of schema files at most. -/
theorem Desk.Finds.unique {d : Desk} {o : Order} {path path' : Path}
    {top top' : Option Path} {files files' : List Path}
    (h : d.Finds o path top files) (h' : d.Finds o path' top' files') :
    path = path' ∧ top = top' ∧ files = files' := by
  obtain rfl : path = path' := Option.some.inj (h.expands.symm.trans h'.expands)
  obtain ⟨single, hsingle, rfl⟩ := h.searches
  obtain ⟨single', hsingle', rfl⟩ := h'.searches
  obtain rfl : single = single' := Except.ok.inj (hsingle.symm.trans hsingle')
  exact ⟨rfl, rfl, Except.ok.inj (h.finds.symm.trans h'.finds)⟩

/-- An order for a directory stands for what a search finds there. -/
theorem Desk.finds_of_dir {d : Desk} {o : Order} {path : Path} {files : List Path}
    (hpath : Path.expandHome? d.storage.home? o.path = some path)
    (hdir : d.storage.find path = .ok (some .dir))
    (hfiles : ({} : Discovery).find d.storage path = .ok files) :
    d.Finds o path (some path) files :=
  ⟨hpath, hfiles, false, Storage.isFile_of_dir hdir, rfl⟩

/-- What a directory names in the order of paths is found as it is named. -/
theorem Desk.finds_of_pairwise {d : Desk} {o : Order} {path : Path} {files : List Path}
    (hpath : Path.expandHome? d.storage.home? o.path = some path)
    (hdir : d.storage.find path = .ok (some .dir))
    (hordered : ((d.storage.tree.filesBelow (d.storage.place path)).filter
      ({} : Discovery).accepts).Pairwise fun a b => Path.before a b = true)
    (hfiles : (((d.storage.tree.filesBelow (d.storage.place path)).filter
      ({} : Discovery).accepts).map fun parts =>
        { path with parts := path.parts ++ parts }) = files) :
    d.Finds o path (some path) files := by
  refine Desk.finds_of_dir hpath hdir ?_
  rw [Discovery.find_of_dir _ hdir, Discovery.filesBelow,
    List.mergeSort_of_pairwise hordered, hfiles]

/-- Three files are saved one after the other. -/
def Storage.Saves (s : Storage) (r : Results) (texts : ResultTexts)
    (s' : Storage) : Prop :=
  ∃ s₁ s₂, s.saveText r.script texts.script = (s₁, .ok ()) ∧
    s₁.saveText r.preview texts.preview = (s₂, .ok ()) ∧
    s₂.saveText r.prompt texts.prompt = (s', .ok ())

namespace Work

variable {d d' : Desk} {o : Order} {path file : Path} {top : Option Path}
variable {files : List Path} {r : Results} {ts : List Table} {s' : Storage}

/-! ## The results of a schema file -/

/-- Three files that are saved one after the other. -/
theorem on_stores {α : Type} {texts : ResultTexts} (h : d.storage.Saves r texts s')
    (k : Work α) :
    (do store (·.saveText r.script texts.script)
        store (·.saveText r.preview texts.preview)
        store (·.saveText r.prompt texts.prompt)
        k : Work α).on d = k.on { d with storage := s' } := by
  obtain ⟨s₁, s₂, h₁, h₂, h₃⟩ := h
  have hscript := on_saveText_of_ok (d := d) h₁
  have hpreview := on_saveText_of_ok (d := { d with storage := s₁ }) h₂
  have hprompt := on_saveText_of_ok (d := { d with storage := s₂ }) h₃
  rw [on_bind_of_ok hscript, on_bind_of_ok hpreview, on_bind_of_ok hprompt]

/-- Four lines that are taken one after the other. -/
theorem exists_on_say_four {l₁ l₂ l₃ l₄ : String} (h₁ : Sayable d.columns l₁)
    (h₂ : Sayable d.columns l₂) (h₃ : Sayable d.columns l₃)
    (h₄ : Sayable d.columns l₄) {α : Type} (a : α) :
    ∃ printed, (do say l₁; say l₂; say l₃; say l₄; pure a : Work α).on d =
      (.ok a, { d with printed := printed }) := by
  obtain ⟨p₁, hsay₁⟩ := exists_on_say_of_sayable h₁
  obtain ⟨p₂, hsay₂⟩ := exists_on_say_of_sayable (d := { d with printed := p₁ }) h₂
  obtain ⟨p₃, hsay₃⟩ := exists_on_say_of_sayable (d := { d with printed := p₂ }) h₃
  obtain ⟨p₄, hsay₄⟩ := exists_on_say_of_sayable (d := { d with printed := p₃ }) h₄
  refine ⟨p₄, ?_⟩
  rw [on_bind_of_ok hsay₁, on_bind_of_ok hsay₂, on_bind_of_ok hsay₃,
    on_bind_of_ok hsay₄]
  rfl

/-- The lines that report results. -/
def reportLines (file : Path) (count : Nat) (r : Results) : List String :=
  ["[bold]" ++ file.name ++ "[/bold]: " ++ toString count ++ " tables",
    "[bold green]SQL:[/bold green]    " ++ r.script.text,
    "[bold green]MD:[/bold green]     " ++ r.preview.text,
    "[bold green]Prompt:[/bold green] " ++ r.prompt.text]

/-- Everything that the results of a schema file need. -/
structure Parts (d : Desk) (o : Order) (top : Option Path) (file : Path)
    (ts : List Table) (s' : Storage) : Prop where
  read : ∃ text, d.storage.readSketch file = .ok text ∧
    ∃ policy, DuplicatePolicy.ofName? d.settings.duplicates = some policy ∧
      ts = resolveDuplicates policy (tables d.settings.scanMode text)
  saved : d.storage.Saves
    (o.names.inDir (o.dirOf d.settings top file))
    (ResultTexts.ofTables ts o.flags d.settings.dimension) s'
  told : ∀ line ∈ reportLines file ts.length
    (o.names.inDir (o.dirOf d.settings top file)),
    Sayable d.columns line

/-- Results that were written had all that they need. -/
theorem exists_parts (h : (generateFile o top file).on d = (.ok r, d')) :
    ∃ ts, Parts d o top file ts d'.storage ∧
      r = o.names.inDir (o.dirOf d.settings top file) ∧
      d'.settings = d.settings ∧ d'.columns = d.columns := by
  unfold generateFile at h
  obtain ⟨text, d₁, hread, h⟩ := exists_of_on_bind h
  obtain ⟨ts, d₂, htables, h⟩ := exists_of_on_bind h
  obtain ⟨d₃, d₃', hget, h⟩ := exists_of_on_bind h
  cases hget
  dsimp only at h
  obtain ⟨u₁, d₄, hscript, h⟩ := exists_of_on_bind h
  obtain ⟨u₂, d₅, hpreview, h⟩ := exists_of_on_bind h
  obtain ⟨u₃, d₆, hprompt, h⟩ := exists_of_on_bind h
  obtain ⟨u₄, d₇, hsay₁, h⟩ := exists_of_on_bind h
  obtain ⟨u₅, d₈, hsay₂, h⟩ := exists_of_on_bind h
  obtain ⟨u₆, d₉, hsay₃, h⟩ := exists_of_on_bind h
  obtain ⟨u₇, d₁₀, hsay₄, h⟩ := exists_of_on_bind h
  cases h
  obtain ⟨hread, rfl⟩ := of_ask_eq_ok hread
  obtain ⟨policy, hpolicy, hts, rfl⟩ := of_tablesOf_eq_ok htables
  obtain ⟨hscript, h₄⟩ := of_store_eq_ok hscript
  obtain ⟨hpreview, h₅⟩ := of_store_eq_ok hpreview
  obtain ⟨hprompt, h₆⟩ := of_store_eq_ok hprompt
  obtain ⟨htold₁, p₁, h₇⟩ := of_say_eq_ok hsay₁
  obtain ⟨htold₂, p₂, h₈⟩ := of_say_eq_ok hsay₂
  obtain ⟨htold₃, p₃, h₉⟩ := of_say_eq_ok hsay₃
  obtain ⟨htold₄, p₄, h₁₀⟩ := of_say_eq_ok hsay₄
  have hcolumns : d₆.columns = d₁.columns := by rw [h₆, h₅, h₄]
  have hsettings : d₆.settings = d₁.settings := by rw [h₆, h₅, h₄]
  rw [h₉] at htold₄ h₁₀
  rw [h₈] at htold₃ htold₄ h₁₀
  rw [h₇] at htold₂ htold₃ htold₄ h₁₀
  rw [h₁₀]
  refine ⟨ts, ⟨⟨text, hread, policy, hpolicy, hts⟩,
    ⟨d₄.storage, d₅.storage, hscript, hpreview, hprompt⟩, ?_⟩, rfl, hsettings,
    hcolumns⟩
  rw [← hcolumns]
  intro line hline
  simp only [reportLines, List.mem_cons, List.not_mem_nil, or_false] at hline
  rcases hline with rfl | rfl | rfl | rfl
  · exact htold₁
  · exact htold₂
  · exact htold₃
  · exact htold₄

/-- **Results are written** if they have all that they need. -/
theorem generateFile_of_parts (h : Parts d o top file ts s') :
    ∃ d', (generateFile o top file).on d =
        (.ok (o.names.inDir (o.dirOf d.settings top file)), d') ∧
      d'.storage = s' ∧ d'.settings = d.settings ∧ d'.columns = d.columns := by
  obtain ⟨text, hread, policy, hpolicy, rfl⟩ := h.read
  have htables := on_tablesOf text d
  rw [hpolicy] at htables
  have htold := h.told
  simp only [reportLines, List.forall_mem_cons] at htold
  obtain ⟨htold₁, htold₂, htold₃, htold₄, -⟩ := htold
  let d₁ : Desk := { d with
    log := d.log ++ (remarks d.settings.scanMode text).map Remark.message }
  have hstores := fun k : Work Results => on_stores (d := d₁) h.saved k
  obtain ⟨printed, htell⟩ := exists_on_say_four (d := { d₁ with storage := s' })
    htold₁ htold₂ htold₃ htold₄ (o.names.inDir (o.dirOf d.settings top file))
  unfold generateFile readSketch
  rw [on_bind_of_ok (on_ask_of_ok hread), on_bind_of_ok htables,
    on_bind_of_ok (on_get _)]
  exact ⟨_, (hstores _).trans htell, rfl, rfl, rfl⟩

/-! ## Runs -/

/-- The line that reports how many schema files were found. -/
def foundLine (count : Nat) : String :=
  "Found [green]" ++ toString count ++ "[/green] schema files"

theorem isPlain_repr (n : Nat) : Console.IsPlain n.repr.toList := by
  intro c hc
  rw [Nat.toList_repr] at hc
  have hdigit := Nat.isDigit_of_mem_toDigits (by decide) (by decide) hc
  constructor
  · rintro rfl
    cases hdigit
  · rintro rfl
    cases hdigit

/-- Every console takes the number of schema files. -/
theorem sayable_foundLine (count columns : Nat) :
    Sayable columns (foundLine count) := by
  have hbefore : Console.IsPlain "Found ".toList := by simp [Console.IsPlain]
  have hafter : Console.IsPlain " schema files".toList := by simp [Console.IsPlain]
  refine sayable_of_badSpans_nil
    (Console.badSpans_colored hbefore (isPlain_repr count) hafter ?_) columns
  simp [foundLine]

/-- The results of schema files, one after the other. -/
def writeAll (o : Order) (top : Option Path) (files : List Path) :
    Work (List Results) := do
  say (foundLine files.length)
  files.mapM (generateFile o top)

/-- A home directory is put in or it is not, and nothing else happens. -/
theorem on_expandHome (p : Path) (d : Desk) :
    (∃ f, (expandHome p).on d = (.error f, d)) ∨
      ∃ q, Path.expandHome? d.storage.home? p = some q ∧
        (expandHome p).on d = (.ok q, d) := by
  unfold expandHome
  rw [on_bind, on_get]
  dsimp only
  cases Path.expandHome? d.storage.home? p with
  | some q => exact Or.inr ⟨q, rfl, rfl⟩
  | none =>
      dsimp only
      split
      · exact Or.inl ⟨_, rfl⟩
      · exact Or.inl ⟨_, rfl⟩

theorem on_expandHome_of_some {p q : Path}
    (h : Path.expandHome? d.storage.home? p = some q) :
    (expandHome p).on d = (.ok q, d) := by
  unfold expandHome
  rw [on_bind, on_get]
  simp only [h]
  rfl

/-- A path can begin in a home directory that there is not. -/
theorem on_expandHome_of_none {p : Path}
    (h : Path.expandHome? d.storage.home? p = none) (hend : p.hasTerminator = false) :
    (expandHome p).on d = (.error .noHome, d) := by
  have hfirst : Path.hasTerminator ⟨.relative, p.parts.take 1⟩ = false := by
    rw [Path.hasTerminator, List.any_eq_false] at hend ⊢
    exact fun part hpart => hend part (List.mem_of_mem_take hpart)
  unfold expandHome
  rw [on_bind, on_get]
  simp only [h, hfirst]
  rfl

/-- A run that finds something at its path writes results. -/
theorem generate_of_finds {node : Node} (hfinds : d.Finds o path top files)
    (hnode : d.storage.find path = .ok (some node)) :
    (generate o).on d = (writeAll o top files).on d := by
  have hexpand := on_expandHome_of_some hfinds.expands
  have hthere : d.storage.isThere path = .ok true := by
    rw [Storage.isThere, hnode]
    rfl
  obtain ⟨single, hsingle, rfl⟩ := hfinds.searches
  unfold generate writeAll foundLine
  rw [on_bind, hexpand]
  dsimp only
  rw [on_bind, on_ask, hthere]
  show (ask (Discovery.find {} · path) >>= fun files => _ :
    Work (List Results)).on d = _
  rw [on_bind, on_ask, hfinds.finds]
  show (say _ >>= fun _ => _ : Work (List Results)).on d = _
  rw [on_bind, on_bind]
  obtain ⟨r, printed, hsay⟩ := exists_on_say
    ("Found [green]" ++ toString files.length ++ "[/green] schema files") d
  rw [hsay]
  cases r with
  | error f => rfl
  | ok u =>
      show (ask (·.isFile path) >>= fun single => _ :
        Work (List Results)).on { d with printed := printed } = _
      have hsame : Storage.isFile
          ({ d with printed := printed } : Desk).storage path =
          .ok single := hsingle
      rw [on_bind, on_ask, hsame]
      rfl

/-- **A run stops at once, or it writes results** for all schema files that it
finds. -/
theorem generate_cases (o : Order) (d : Desk) :
    (∃ f, (generate o).on d = (.error f, d)) ∨
      ∃ path top files node, d.Finds o path top files ∧
        d.storage.find path = .ok (some node) ∧
        (generate o).on d = (writeAll o top files).on d := by
  rcases on_expandHome o.path d with ⟨f, hfails⟩ | ⟨path, hpath, hexpand⟩
  · unfold generate
    rw [on_bind, hfails]
    exact Or.inl ⟨f, rfl⟩
  cases hthere : d.storage.isThere path with
  | error e =>
      unfold generate
      rw [on_bind, hexpand]
      dsimp only
      rw [on_bind, on_ask, hthere]
      exact Or.inl ⟨_, rfl⟩
  | ok there =>
      cases there with
      | false =>
          unfold generate
          rw [on_bind, hexpand]
          dsimp only
          rw [on_bind, on_ask, hthere]
          exact Or.inl ⟨_, rfl⟩
      | true =>
          obtain ⟨node, hnode⟩ := Storage.exists_find_of_isThere hthere
          obtain ⟨files, hfiles⟩ := Discovery.exists_find {} hnode
          obtain ⟨single, hsingle⟩ := Storage.exists_isFile hnode
          have hfinds : d.Finds o path (if single then none else some path)
              files := ⟨hpath, hfiles, single, hsingle, rfl⟩
          exact Or.inr ⟨path, _, files, node, hfinds, hnode,
            generate_of_finds hfinds hnode⟩

/-- A run that has succeeded has written results for what it has found. -/
theorem of_generate_eq_ok {rs : List Results}
    (h : (generate o).on d = (.ok rs, d')) :
    ∃ path top files node, d.Finds o path top files ∧
      d.storage.find path = .ok (some node) ∧
      (writeAll o top files).on d = (.ok rs, d') := by
  rcases generate_cases o d with ⟨f, hstop⟩ |
    ⟨path, top, files, node, hfinds, hnode, hrun⟩
  · rw [h] at hstop
    cases hstop
  · exact ⟨path, top, files, node, hfinds, hnode, hrun.symm.trans h⟩

theorem of_writeAll_eq_ok {rs : List Results}
    (h : (writeAll o top files).on d = (.ok rs, d')) :
    Sayable d.columns (foundLine files.length) ∧
      ∃ printed, (files.mapM (generateFile o top)).on
        { d with printed := printed } = (.ok rs, d') := by
  obtain ⟨u, d₁, hsay, h⟩ := exists_of_on_bind h
  obtain ⟨htold, printed, rfl⟩ := of_say_eq_ok hsay
  exact ⟨htold, printed, h⟩

end Work

end TableSketch
