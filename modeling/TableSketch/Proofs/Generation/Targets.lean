import TableSketch.Proofs.Generation.Keeping
import TableSketch.Proofs.Storage.Listing
import TableSketch.Proofs.Storage.Names

/-!
# Where results go

The directory for the results of a schema file keeps its place below the output
directory and is called like its stem.  It is where one expects it to be if the stem
says where to go on (`Desk.Finds.place_dirOf`).  A schema file called `..d2` or
`...d2` has a stem that does not: its results stand one directory higher, or two, and
so they can leave the output directory.

Nothing else can go wrong.  A run, whether it fails or not, changes no file outside
the directories for results, and it is seen from the stem of a schema file and from
the directories on the way to it whether its results lie in a directory of their
own below the output directory (`Work.results_inside`).

## Main results

* `Desk.Finds.isName`, `Desk.Finds.forth` — the names of schema files.
* `Desk.Finds.place_dirOf` — the place of a directory for results.
* `Work.results_inside` — what a run changes, seen from the output directory.
-/

namespace TableSketch

/-- The directories on the way from the top of a search to a file that it found. -/
def Path.between (top : Option Path) (file : Path) : List String :=
  match top with
  | none => []
  | some r => (file.parts.drop r.parts.length).dropLast

/-- Everything in a tree is called by a name. -/
def FileTree.IsNamed (t : FileTree) : Prop :=
  ∀ e ∈ t.entries, ∀ name ∈ e.1, Path.IsName name

instance FileTree.decidableIsNamed (t : FileTree) : Decidable t.IsNamed :=
  inferInstanceAs (Decidable (∀ e ∈ t.entries, ∀ name ∈ e.1, Path.IsName name))

/-- The directory for results, step by step. -/
theorem resultDir_eq (base : Path) (top : Option Path) (file : Path) :
    resultDir base top file =
      ({ base with parts := base.parts ++ file.between top } : Path).child
        file.stem := by
  cases top with
  | none =>
      show base.child file.stem =
        ({ base with parts := base.parts ++ [] } : Path).child file.stem
      rw [List.append_nil]
  | some r => rfl

namespace Storage

variable {s : Storage} {p : Path}

/-- Parts that do not lead back are the names of a place. -/
theorem fold_eq_append {parts : List String} (h : ".." ∉ parts)
    (here : Location) : fold here parts = here ++ parts := by
  induction parts generalizing here with
  | nil => exact (List.append_nil here).symm
  | cons part parts ih =>
      rw [List.mem_cons, not_or] at h
      have hstep : fold here (part :: parts) = fold (here ++ [part]) parts := by
        show fold (if part = ".." then here.dropLast else here ++ [part]) parts =
          fold (here ++ [part]) parts
        rw [if_neg (Ne.symm h.1)]
      rw [hstep, ih h.2, List.append_assoc, List.singleton_append]

theorem place_append {parts : List String} (h : ".." ∉ parts) (s : Storage)
    (p : Path) :
    s.place { p with parts := p.parts ++ parts } = s.place p ++ parts := by
  rw [place, fold_append]
  exact fold_eq_append h (s.place p)

/-- A path to a file ends in the name of the file. -/
theorem WellFormed.exists_parts_of_file (h : s.WellFormed)
    {content : List UInt8} (hfile : s.find p = .ok (some (.file content))) :
    ∃ front, p.parts = front ++ [p.name] ∧ p.name ∈ s.place p := by
  obtain ⟨hlocate, hnode⟩ := find_eq_some hfile
  obtain ⟨front, last, hparts, -, -, hplace⟩ :=
    h.exists_concat_of_locate hlocate (by simp [hnode])
  have hname : p.name = last := by simp [Path.name, hparts]
  rw [hname]
  exact ⟨front, hparts, by simp [hplace]⟩

end Storage

/-! ## Schema files that were found -/

namespace Desk.Finds

variable {d : Desk} {o : Order} {path file : Path} {top : Option Path}
variable {files : List Path} {l : Location}

/-- A schema file is the one that the order names, or it is listed below the
directory that the order names. -/
theorem cases (h : d.Finds o path top files) (hf : file ∈ files) :
    (∃ content, d.storage.find path = .ok (some (.file content)) ∧
      top = none ∧ file = path) ∨
    (d.storage.find path = .ok (some .dir) ∧ top = some path ∧
      ∃ r ∈ ({} : Discovery).filesBelow d.storage.tree (d.storage.place path),
        file = { path with parts := path.parts ++ r }) := by
  obtain ⟨single, hsingle, htop⟩ := h.searches
  have hfound := h.finds
  cases hfind : d.storage.find path with
  | error e =>
      rw [Storage.isFile, hfind] at hsingle
      cases hsingle
  | ok node =>
      rw [Storage.isFile, hfind] at hsingle
      cases node with
      | none =>
          rw [Discovery.find, hfind] at hfound
          obtain rfl := Except.ok.inj hfound
          cases hf
      | some n =>
          cases n with
          | dir =>
              obtain rfl := Except.ok.inj hsingle
              rw [Discovery.find_of_dir {} hfind] at hfound
              obtain rfl := Except.ok.inj hfound
              obtain ⟨r, hr, rfl⟩ := List.mem_map.mp hf
              exact Or.inr ⟨rfl, htop, r, hr, rfl⟩
          | file content =>
              obtain rfl := Except.ok.inj hsingle
              rw [Discovery.find_of_file {} hfind] at hfound
              obtain rfl := Except.ok.inj hfound
              exact Or.inl ⟨content, rfl, htop, List.mem_singleton.mp hf⟩

/-- What is listed has a last name. -/
theorem exists_concat {r : Location} (h : d.storage.WellFormed)
    (hr : r ∈ ({} : Discovery).filesBelow d.storage.tree l) :
    ∃ front last, r = front ++ [last] ∧
      ∃ content, d.storage.tree.node? (l ++ r) = some (.file content) := by
  obtain ⟨haccepts, hfile⟩ := (Discovery.mem_filesBelow_iff h.tree).mp hr
  obtain ⟨front, hparts, -⟩ := Path.exists_parts_of_isSketch
    (Discovery.isSketch_of_accepts haccepts)
  exact ⟨front, _, hparts, hfile⟩

/-- A schema file has a name. -/
theorem isName (h : d.Finds o path top files) (hwf : d.storage.WellFormed)
    (hnamed : d.storage.tree.IsNamed) (hf : file ∈ files) :
    Path.IsName file.name := by
  have hof : ∀ l content, d.storage.tree.node? l = some (.file content) →
      ∀ name ∈ l, Path.IsName name := by
    intro l content hnode
    have hl : l ≠ [] := by
      rintro rfl
      cases hnode
    exact hnamed _ (FileTree.mem_of_node? hl hnode)
  rcases h.cases hf with ⟨content, hfile, -, rfl⟩ | ⟨-, -, r, hr, rfl⟩
  · obtain ⟨front, -, hmem⟩ := hwf.exists_parts_of_file hfile
    exact hof _ content (Storage.find_eq_some hfile).2 _ hmem
  · obtain ⟨front, last, rfl, content, hnode⟩ := exists_concat hwf hr
    have hname : ({ path with parts := path.parts ++ (front ++ [last]) } :
        Path).name = last := by simp [Path.name]
    rw [hname]
    exact hof _ content hnode last (by simp)

/-- The way to a schema file leads forward. -/
theorem forth (h : d.Finds o path top files) (hwf : d.storage.WellFormed)
    (hf : file ∈ files) : ".." ∉ file.between top := by
  rcases h.cases hf with ⟨content, -, rfl, rfl⟩ | ⟨-, rfl, r, hr, rfl⟩
  · exact List.not_mem_nil
  · obtain ⟨front, last, rfl, content, hnode⟩ := exists_concat hwf hr
    have hbetween : ({ path with parts := path.parts ++ (front ++ [last]) } :
        Path).between (some path) = front := by simp [Path.between]
    rw [hbetween]
    intro hmem
    apply hwf.forth_of_node? hnode
    simp [hmem]

/-- **The place of the directory for results.** -/
theorem place_dirOf (h : d.Finds o path top files) (hwf : d.storage.WellFormed)
    (hnamed : d.storage.tree.IsNamed) (hf : file ∈ files) :
    d.storage.place (o.dirOf d.settings top file) =
      if file.stem = "." then
        d.storage.place (o.base d.settings) ++ file.between top
      else if file.stem = ".." then
        (d.storage.place (o.base d.settings) ++ file.between top).dropLast
      else d.storage.place (o.base d.settings) ++ file.between top ++
        [file.stem] := by
  rw [Order.dirOf, resultDir_eq,
    Storage.place_child_stem (h.isName hwf hnamed hf),
    Storage.place_append (h.forth hwf hf)]

end Desk.Finds

/-! ## The output directory -/

/-- The place lies below a directory, and not in that directory itself. -/
def Storage.LiesDeep (base l : Location) : Prop :=
  ∃ dirs name, dirs ≠ [] ∧ l = base ++ dirs ++ [name]

theorem Storage.liesDeep_iff {base l : Location} :
    LiesDeep base l ↔ base <+: l ∧ base.length + 2 ≤ l.length := by
  constructor
  · rintro ⟨dirs, name, hdirs, rfl⟩
    have hlength : 0 < dirs.length := List.length_pos_iff.mpr hdirs
    constructor
    · rw [List.append_assoc]
      exact List.prefix_append _ _
    · simp only [List.length_append, List.length_singleton]
      omega
  · rintro ⟨⟨rest, rfl⟩, hlength⟩
    rw [List.length_append] at hlength
    have hrest : rest ≠ [] := by
      rintro rfl
      rw [List.length_nil] at hlength
      omega
    refine ⟨rest.dropLast, rest.getLast hrest, ?_, ?_⟩
    · intro hnil
      have hdrop : rest.dropLast.length = 0 := by rw [hnil]; rfl
      rw [List.length_dropLast] at hdrop
      omega
    · rw [List.append_assoc, List.dropLast_append_getLast]

theorem Storage.liesDeep_append {base dirs : Location} {name : String} :
    LiesDeep base (base ++ dirs ++ [name]) ↔ dirs ≠ [] := by
  have hprefix : base <+: base ++ dirs ++ [name] := by
    rw [List.append_assoc]
    exact List.prefix_append _ _
  rw [liesDeep_iff, and_iff_right hprefix, ← List.length_pos_iff,
    List.length_append, List.length_append, List.length_singleton]
  omega

/-- A way back may lead out of the directory. -/
theorem Storage.liesDeep_dropLast {base dirs : Location} {name : String} :
    LiesDeep base ((base ++ dirs).dropLast ++ [name]) ↔ 2 ≤ dirs.length := by
  rcases List.eq_nil_or_concat dirs with rfl | ⟨front, last, rfl⟩
  · rw [liesDeep_iff, List.append_nil, List.length_append,
      List.length_dropLast, List.length_singleton, List.length_nil]
    omega
  · rw [List.concat_eq_append, ← List.append_assoc, List.dropLast_concat,
      liesDeep_append, ← List.length_pos_iff, List.length_append,
      List.length_singleton]
    omega

/-- **Whether a result lies deep** below the output directory: it does, unless the
stem of its schema file leads too far back on the way there. -/
theorem Storage.liesDeep_landing (base sub : Location) (stem name : String) :
    LiesDeep base ((if stem = "." then base ++ sub
      else if stem = ".." then (base ++ sub).dropLast
      else base ++ sub ++ [stem]) ++ [name]) ↔
      ¬ (stem = "." ∧ sub = []) ∧ ¬ (stem = ".." ∧ sub.length ≤ 1) := by
  by_cases hdot : stem = "."
  · have hback : stem ≠ ".." := by simp [hdot]
    rw [if_pos hdot, liesDeep_append]
    simp [hdot]
  · rw [if_neg hdot]
    by_cases hback : stem = ".."
    · rw [if_pos hback, liesDeep_dropLast]
      constructor
      · intro hlength
        exact ⟨fun h => hdot h.1, fun h => by omega⟩
      · intro h
        by_contra hshort
        exact h.2 ⟨hback, by omega⟩
    · rw [if_neg hback, List.append_assoc base, liesDeep_append]
      simp [hdot, hback]

namespace Work

variable {d : Desk} {o : Order} {l : Location}

/-- **What a run changes**, whether it fails or not, are results of schema files
that it has found.  They lie in a directory of their own below the output
directory, if the schema file has a proper stem.  If not, it depends on how deep the
schema file was found whether they lie below the output directory and not in it. -/
theorem results_inside (o : Order) (hnames : o.names = {}) (d : Desk)
    (hwf : d.storage.WellFormed) (hnamed : d.storage.tree.IsNamed)
    {l : Location} {content : List UInt8}
    (hnew : ((generate o).on d).2.storage.tree.node? l = some (.file content))
    (hold : d.storage.tree.node? l ≠ some (.file content)) :
    ∃ path top files file name, d.Finds o path top files ∧ file ∈ files ∧
      name ∈ o.names.all ∧
      l = d.storage.place (o.dirOf d.settings top file) ++ [name] ∧
      (file.HasProperStem → l = d.storage.place (o.base d.settings) ++
        file.between top ++ [file.stem] ++ [name]) ∧
      (Storage.LiesDeep (d.storage.place (o.base d.settings)) l ↔
        ¬ (file.stem = "." ∧ file.between top = []) ∧
          ¬ (file.stem = ".." ∧ (file.between top).length ≤ 1)) := by
  have hapart : o.names.Apart := hnames ▸ ResultNames.apart_default
  have hgrown := grown_generate hapart d
  have htarget : d.IsTarget o l := by
    by_contra hnone
    exact hold ((hgrown.storage.tree.others l hnone content).mp hnew)
  obtain ⟨path, top, files, hfinds, file, hf, hl⟩ := htarget
  obtain ⟨name, hname, rfl⟩ := List.mem_map.mp hl
  have hplace := hfinds.place_dirOf hwf hnamed hf
  refine ⟨path, top, files, file, name, hfinds, hf, hname, rfl, ?_, ?_⟩
  · rintro ⟨hdot, hback⟩
    rw [hplace, if_neg hdot, if_neg hback]
  · rw [hplace]
    exact Storage.liesDeep_landing _ _ file.stem name

/-- A schema file in a subdirectory whose stem leads back, and a directory where
the second of its results is to go. -/
def blockedDesk : Desk where
  storage.tree := ⟨[(["w"], .dir), (["w", "s"], .dir),
    (["w", "s", "...d2"], .file (Text.encode "T: {shape: sql_table}".toList)),
    (["out"], .dir), (["out", "schema.sql"], .file []),
    (["out", "schema_preview.md"], .dir)]⟩

/-- The run fails.  It has changed a file by then, in the output directory itself. -/
theorem results_inside_of_blockedDesk :
    ((generate { path := .ofString "w" }).on blockedDesk).1.toOption = none ∧
      ((generate { path := .ofString "w" }).on
        blockedDesk).2.storage.tree.node? ["out", "schema.sql"] =
        some (.file (Text.encode "CREATE TABLE T (\n\n);\n".toList)) ∧
      ¬ Storage.LiesDeep ["out"] ["out", "schema.sql"] := by
  have hrun : ((generate { path := .ofString "w" }).on blockedDesk).1.toOption =
        none ∧
      ((generate { path := .ofString "w" }).on
        blockedDesk).2.storage.tree.node? ["out", "schema.sql"] =
        some (.file (Text.encode "CREATE TABLE T (\n\n);\n".toList)) ∧
      Path.expandHome? blockedDesk.storage.home? (.ofString "w") =
        some (.ofString "w") ∧
      ({} : Discovery).find blockedDesk.storage (.ofString "w") =
        .ok [.ofString "w/s/...d2"] ∧
      blockedDesk.storage.isFile (.ofString "w") = .ok false := by
    decide +kernel
  obtain ⟨hfails, hnew, hexpand, hfind, hdir⟩ := hrun
  refine ⟨hfails, hnew, ?_⟩
  obtain ⟨path, top, files, file, name, hfinds, hfile, -, -, -, hdeep⟩ :=
    results_inside { path := .ofString "w" } rfl blockedDesk (by decide)
      (by decide) hnew (by decide +kernel)
  obtain rfl : path = .ofString "w" :=
    Option.some.inj (hfinds.expands.symm.trans hexpand)
  obtain rfl : files = [.ofString "w/s/...d2"] :=
    Except.ok.inj (hfinds.finds.symm.trans hfind)
  obtain rfl := List.mem_singleton.mp hfile
  obtain ⟨single, hsingle, rfl⟩ := hfinds.searches
  obtain rfl : single = false := Except.ok.inj (hsingle.symm.trans hdir)
  intro hlies
  exact (hdeep.mp hlies).2 (by decide)

/-- The results of a schema file called `...d2` are written beside the output
directory. -/
theorem results_beside_output :
    ∃ d' : Desk,
      (generate { path := .ofString "w" }).on
        { storage.tree := ⟨[(["w"], .dir), (["w", "...d2"], .file [])]⟩ } =
        (.ok [⟨.ofString "out/../schema.sql", .ofString "out/../schema_preview.md",
          .ofString "out/../prompt.md"⟩], d') ∧
      d'.storage.tree.node? ["schema.sql"] =
        some (.file (Text.encode
          "-- No valid tables found.\n-- Use shape: sql_table\n".toList)) ∧
      ¬ Storage.LiesDeep ["out"] ["schema.sql"] := by
  refine ⟨_, Prod.ext ?_ rfl, ?_, ?_⟩
  · decide +kernel
  · decide +kernel
  · rw [Storage.liesDeep_iff]
    decide

end Work

end TableSketch
