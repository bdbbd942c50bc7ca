import TableSketch.Proofs.Generation.Outputs
import TableSketch.Proofs.Storage.Edits

/-!
# Rounds of edits and runs

Between runs schema files are edited, and every run writes what belongs to the schema
files that it finds.  It removes nothing.  So what the last run leaves is what a run on
the same schema files would have left in an empty output directory, and besides that
the results of earlier runs which the last one has not written again
(`Work.rounds_leave`).

That the run in an empty directory succeeds is told by the one that did: all files
that it writes are there when the other one ends, so that there is room for them.
Which files are results is carried through the rounds by an invariant, `Desk.After`.

## Main results

* `Desk.After.edits?`, `Desk.After.generate`, `Desk.After.rounds?` — what rounds keep.
* `Work.exists_generate_emptied` — the run in an empty directory.
* `Work.rounds_leave` — what the last run leaves.
-/

namespace TableSketch

/-- Edits, with a run behind them that succeeds. -/
def Desk.round? (d : Desk) (o : Order) (es : List Edit) :
    Option (Desk × List Results) :=
  (d.storage.edits? es).bind fun s =>
    match (Work.generate o).on { d with storage := s } with
    | (.ok rs, d') => some (d', rs)
    | (.error _, _) => none

/-- Rounds one after the other: the last desk, and the results of each run. -/
def Desk.rounds? (d : Desk) (o : Order) :
    List (List Edit) → Option (Desk × List (List Results))
  | [] => some (d, [])
  | es :: rounds =>
    (d.round? o es).bind fun (d₁, rs) =>
      (d₁.rounds? o rounds).map fun (d', rss) => (d', rs :: rss)

/-- A desk after some rounds.  Below a directory, the files that are no schema files
are the results of the runs so far. -/
structure Desk.After (d₀ : Desk) (base : Location) (places : List Location)
    (d : Desk) : Prop where
  settings : d.settings = d₀.settings
  changed : d₀.storage.Changed (fun _ => True) d.storage
  wellFormed : d.storage.WellFormed
  plain : ∀ l ∈ places, (⟨.relative, l⟩ : Path).isSketch = false
  results : ∀ l, base <+: l → (⟨.relative, l⟩ : Path).isSketch = false →
    ((d.storage.tree.content? l).isSome = true ↔ l ∈ places)

namespace Desk.After

open Work

variable {d₀ d d' : Desk} {o : Order} {path : Path} {base : Location}
variable {places : List Location} {es : List Edit} {rounds : List (List Edit)}
variable {s : Storage} {rs : List Results} {rss : List (List Results)}

theorem refl (hwf : d₀.storage.WellFormed)
    (hempty : ∀ l, base <+: l → d₀.storage.tree.content? l = none) :
    d₀.After base [] d₀ := by
  refine ⟨rfl, .refl _ _, hwf, fun l hl => absurd hl List.not_mem_nil, ?_⟩
  intro l hl _
  simp [hempty l hl]

/-- Edits of schema files leave all results alone. -/
theorem edits? (h : d₀.After base places d)
    (hsketch : ∀ e ∈ es, e.path.isSketch = true)
    (hedits : d.storage.edits? es = some s) :
    d₀.After base places { d with storage := s } := by
  obtain ⟨hchanged, hwf⟩ := Storage.changed_edits? hsketch hedits
  refine ⟨h.settings, h.changed.trans (hchanged.mono fun _ _ => trivial),
    hwf h.wellFormed, h.plain, ?_⟩
  intro l hl hplain
  rw [hchanged.others l (by simp [hplain])]
  exact h.results l hl hplain

/-- The path of the order stands for the same directory. -/
theorem finds (h : d₀.After base places d)
    (hpath : Path.expandHome? d₀.storage.home? o.path = some path)
    (hdir : d₀.storage.isDir path = .ok true) :
    d.storage.find path = .ok (some .dir) ∧
      ∃ files, d.Finds o path (some path) files := by
  have hfind := h.changed.find_dir (Storage.isDir_iff.mp hdir)
  obtain ⟨files, hfiles⟩ := Discovery.exists_find {} hfind
  refine ⟨hfind, files, Desk.finds_of_dir ?_ hfind hfiles⟩
  rw [h.changed.home?_eq]
  exact hpath

/-- A run adds its results, and it takes none away. -/
theorem generate (h : d₀.After base places d) (hnames : o.names = {})
    (hpath : Path.expandHome? d₀.storage.home? o.path = some path)
    (hdir : d₀.storage.isDir path = .ok true)
    (hrun : (Work.generate o).on d = (.ok rs, d')) :
    d₀.After base (places ++ d₀.storage.outputPlaces rs) d' := by
  have ho : o.names.Apart := hnames ▸ ResultNames.apart_default
  obtain ⟨hfind, files, hfinds⟩ := h.finds hpath hdir
  obtain ⟨hrs, hgrown, -⟩ := of_generate_dir_eq_ok ho hrun hfinds.expands
    (Storage.isDir_iff.mpr hfind) hfinds.finds
  have hsketch : ∀ f ∈ files, f.isSketch = true :=
    fun f hf => Discovery.isSketch_of_mem hfind hfinds.finds hf
  obtain ⟨htexts, hcontent⟩ := content?_generate ho hrun hfinds hsketch
  have hplaces : ∀ l, l ∈ d₀.storage.outputPlaces rs ↔
      d.IsResult o (some path) files l := by
    intro l
    rw [← Desk.mem_outputPlaces_iff ho, ← hrs, h.changed.outputPlaces_eq]
  have hwf := wellFormed_generate o h.wellFormed
  rw [hrun] at hwf
  refine ⟨hgrown.settings.trans h.settings,
    h.changed.trans (hgrown.storage.changed.mono fun _ _ => trivial), hwf, ?_, ?_⟩
  · intro l hl
    rcases List.mem_append.mp hl with hold | hnew
    · exact h.plain l hold
    · exact Desk.isSketch_of_isResult ho ((hplaces l).mp hnew)
  · intro l hl hplain
    rw [hcontent, Option.isSome_or, Bool.or_eq_true,
      Desk.isSome_written?_iff htexts, h.results l hl hplain, List.mem_append,
      hplaces, or_comm]

/-- **What rounds keep.** -/
theorem rounds? (h : d₀.After base places d) (hnames : o.names = {})
    (hpath : Path.expandHome? d₀.storage.home? o.path = some path)
    (hdir : d₀.storage.isDir path = .ok true)
    (hsketch : ∀ es ∈ rounds, ∀ e ∈ es, e.path.isSketch = true)
    (hrounds : d.rounds? o rounds = some (d', rss)) :
    d₀.After base (places ++ rss.flatMap d₀.storage.outputPlaces) d' := by
  induction rounds generalizing d places rss with
  | nil =>
      obtain ⟨rfl, rfl⟩ := Prod.mk.inj (Option.some.inj hrounds)
      rw [List.flatMap_nil, List.append_nil]
      exact h
  | cons es rounds ih =>
      obtain ⟨⟨d₁, rs⟩, hround, hrounds⟩ := Option.bind_eq_some_iff.mp hrounds
      obtain ⟨⟨d₂, rss'⟩, hrest, heq⟩ := Option.map_eq_some_iff.mp hrounds
      obtain ⟨rfl, rfl⟩ := Prod.mk.inj heq
      obtain ⟨s, hedits, hrun⟩ := Option.bind_eq_some_iff.mp hround
      have hedited := h.edits? (hsketch es List.mem_cons_self) hedits
      split at hrun
      · next rs' d₁' hok =>
          obtain ⟨rfl, rfl⟩ := Prod.mk.inj (Option.some.inj hrun)
          have hafter := ih (hedited.generate hnames hpath hdir hok)
            (fun es' hes' => hsketch es' (List.mem_cons_of_mem es hes')) hrest
          rw [List.append_assoc, ← List.flatMap_cons] at hafter
          exact hafter
      · cases hrun

end Desk.After

namespace Work

variable {d₀ d d' d'' : Desk} {o : Order} {path : Path} {base : Location}
variable {files : List Path} {rs : List Results}

/-- A search finds the same schema files when a directory has been emptied of others. -/
theorem finds_emptied (hwf : d.storage.WellFormed)
    (hdir : d.storage.find path = .ok (some .dir))
    (hfinds : d.Finds o path (some path) files) (base : Location) :
    { d with storage := d.storage.emptied base }.Finds o path (some path) files := by
  have hchanged := Storage.changed_emptied hwf base
  refine Desk.finds_of_dir hfinds.expands (hchanged.find_dir hdir) ?_
  rw [← hfinds.finds]
  exact Discovery.find_of_changed hchanged hwf (hwf.emptied base) hdir
    fun l hl => hl.2

/-- A schema file that is read in the end can be read in the beginning, if it was
found then. -/
theorem readSketch_of_ready {b : Storage} {f : Path} {text : String}
    (hwf : d.storage.WellFormed) (hfits : d.storage.Fits b)
    (hdir : d.storage.find path = .ok (some .dir))
    (hfinds : d.Finds o path (some path) files) (hf : f ∈ files)
    (hsame : b.tree.content? (d.storage.place f) =
      d.storage.tree.content? (d.storage.place f))
    (hread : b.readSketch f = .ok text) : d.storage.readSketch f = .ok text := by
  obtain ⟨content, hfind, rfl⟩ := Storage.readSketch_eq hread
  obtain ⟨hlocate, hnode⟩ := Storage.find_eq_some hfind
  rw [hfits.place_eq, ← FileTree.content?_eq_some_iff, hsame,
    FileTree.content?_eq_some_iff] at hnode
  rcases hfinds.cases hf with ⟨-, -, htop, -⟩ | ⟨-, -, r, hr, rfl⟩
  · cases htop
  · obtain ⟨front, last, rfl, content', hnode'⟩ := Desk.Finds.exists_concat hwf hr
    have hforth : ".." ∉ front ++ [last] := by
      intro hmem
      exact hwf.forth_of_node? hnode' (List.mem_append_right _ hmem)
    have hs := hwf.locate_below hfits hdir hforth hlocate hnode'
    apply Storage.readSketch_of_find
    rw [Storage.find_of_locate hs, Storage.locate_eq_place hs, hnode]

/-- **A run succeeds in an empty directory** if it has succeeded in one that is not. -/
theorem exists_generate_emptied (ho : o.names.Apart) (hwf : d.storage.WellFormed)
    (hdir : d.storage.find path = .ok (some .dir))
    (hfinds : d.Finds o path (some path) files)
    (hrun : (generate o).on d = (.ok rs, d')) (base : Location) :
    ∃ d'', (generate o).on { d with storage := d.storage.emptied base } =
      (.ok rs, d'') := by
  let e : Desk := { d with storage := d.storage.emptied base }
  have hchanged := Storage.changed_emptied hwf base
  have hdir' := hchanged.find_dir hdir
  have hfinds' : e.Finds o path (some path) files :=
    finds_emptied hwf hdir hfinds base
  have hsketch : ∀ f ∈ files, f.isSketch = true :=
    fun f hf => Discovery.isSketch_of_mem hdir hfinds.finds hf
  obtain ⟨hrs, hgrown, -⟩ := of_generate_dir_eq_ok ho hrun hfinds.expands
    (Storage.isDir_iff.mpr hdir) hfinds.finds
  obtain ⟨htold, hready⟩ := ready_of_generate ho hrun hfinds hsketch
  have hcolumns := columns_generate o d
  rw [hrun] at hcolumns
  have hready' : ∀ f ∈ files, e.Ready o (some path) d'.storage f := by
    intro f hf
    obtain ⟨hsketch, ⟨text, policy, hread, hpolicy, htold⟩, hroom⟩ := hready f hf
    rw [hgrown.settings] at hpolicy htold hroom
    rw [hcolumns] at htold
    have hkept : ¬ d.IsResult o (some path) files (d.storage.place f) :=
      Desk.not_isResult_of_isSketch ho hsketch
    have hread' := readSketch_of_ready hwf hgrown.storage.fits hdir hfinds hf
      (hgrown.storage.tree.content?_eq hkept) hread
    refine ⟨hsketch, ⟨text, policy, hchanged.readSketch hread' ?_, hpolicy, htold⟩,
      hroom⟩
    simp [Storage.isSketch_place hsketch]
  obtain ⟨rs', d'', hrun', -⟩ := exists_generate_of_ready ho (hwf.emptied base)
    ((Storage.fits_emptied hwf base).trans hgrown.storage.fits) hfinds' hdir'
    (hcolumns ▸ htold) hready'
  obtain ⟨hrs', -, -⟩ := of_generate_dir_eq_ok ho hrun' hfinds'.expands
    (Storage.isDir_iff.mpr hdir') hfinds'.finds
  rw [hrs, ← hrs']
  exact ⟨d'', hrun'⟩

/-- What a run leaves in an empty directory: what it writes, and what else is there. -/
theorem content?_generate_emptied (ho : o.names.Apart) (hwf : d.storage.WellFormed)
    (hdir : d.storage.find path = .ok (some .dir))
    (hfinds : d.Finds o path (some path) files)
    (hrun : (generate o).on { d with storage := d.storage.emptied base } =
      (.ok rs, d')) (l : Location) :
    d'.storage.tree.content? l = (d.written? o (some path) files l).or
      (if base <+: l ∧ (⟨.relative, l⟩ : Path).isSketch = false then none
        else d.storage.tree.content? l) := by
  let e : Desk := { d with storage := d.storage.emptied base }
  have hsettings : e.settings = d.settings := rfl
  have hchanged : d.storage.Changed _ e.storage :=
    Storage.changed_emptied hwf base
  have hsketch : ∀ f ∈ files, f.isSketch = true :=
    fun f hf => Discovery.isSketch_of_mem hdir hfinds.finds hf
  have hfinds' := finds_emptied hwf hdir hfinds base
  have hsame : e.written? o (some path) files l =
      d.written? o (some path) files l := by
    refine Desk.written?_eq hsettings hchanged ?_ l
    intro f hf
    simp [Storage.isSketch_place (hsketch f hf)]
  rw [(content?_generate ho hrun hfinds' hsketch).2, hsame,
    ← FileTree.content?_emptied hwf.tree]
  rfl

/-- What a run leaves in the empty directory, it leaves in the other one as well. -/
theorem content?_of_generate_emptied (ho : o.names.Apart)
    (hwf : d.storage.WellFormed) (hdir : d.storage.find path = .ok (some .dir))
    (hfinds : d.Finds o path (some path) files)
    (hrun : (generate o).on d = (.ok rs, d'))
    (hrun' : (generate o).on { d with storage := d.storage.emptied base } =
      (.ok rs, d'')) {l : Location} {content : List UInt8}
    (h : d''.storage.tree.content? l = some content) :
    d'.storage.tree.content? l = some content := by
  have hsketch : ∀ f ∈ files, f.isSketch = true :=
    fun f hf => Discovery.isSketch_of_mem hdir hfinds.finds hf
  rw [(content?_generate ho hrun hfinds hsketch).2]
  rw [content?_generate_emptied ho hwf hdir hfinds hrun'] at h
  cases hnew : d.written? o (some path) files l with
  | some content' =>
      rw [hnew] at h
      exact h
  | none =>
      rw [hnew, Option.none_or] at h
      split at h
      · cases h
      · exact h

/-- What only the run in the directory that was not emptied leaves there: the files
that are no schema files and that it does not write. -/
theorem only_generate_iff (ho : o.names.Apart) (hwf : d.storage.WellFormed)
    (hdir : d.storage.find path = .ok (some .dir))
    (hfinds : d.Finds o path (some path) files)
    (hrun : (generate o).on d = (.ok rs, d'))
    (hrun' : (generate o).on { d with storage := d.storage.emptied base } =
      (.ok rs, d'')) {l : Location} (hl : base <+: l) :
    (d'.storage.tree.content? l).isSome = true ∧
        d''.storage.tree.content? l = none ↔
      d.written? o (some path) files l = none ∧
        (⟨.relative, l⟩ : Path).isSketch = false ∧
        (d.storage.tree.content? l).isSome = true := by
  have hsketch : ∀ f ∈ files, f.isSketch = true :=
    fun f hf => Discovery.isSketch_of_mem hdir hfinds.finds hf
  rw [(content?_generate ho hrun hfinds hsketch).2,
    content?_generate_emptied ho hwf hdir hfinds hrun', Option.or_eq_none_iff]
  constructor
  · rintro ⟨hthere, hnone, hgone⟩
    rw [hnone, Option.none_or] at hthere
    split at hgone
    · next hplain => exact ⟨hnone, hplain.2, hthere⟩
    · rw [hgone] at hthere
      cases hthere
  · rintro ⟨hnone, hplain, hthere⟩
    rw [hnone, Option.none_or, if_pos ⟨hl, hplain⟩]
    exact ⟨hthere, rfl, rfl⟩

/-- What is left after the last run, and what would be left in an empty directory. -/
theorem exists_leftovers (hnames : o.names = {}) (hwf : d₀.storage.WellFormed)
    (hpath : Path.expandHome? d₀.storage.home? o.path = some path)
    (hdir : d₀.storage.isDir path = .ok true)
    (hempty : ∀ l, d₀.storage.place (o.base d₀.settings) <+: l →
      d₀.storage.tree.content? l = none)
    {rounds : List (List Edit)} {es : List Edit} {rss : List (List Results)}
    {s : Storage}
    (hsketch : ∀ es' ∈ es :: rounds, ∀ e ∈ es', e.path.isSketch = true)
    (hrounds : d₀.rounds? o rounds = some (d, rss))
    (hedits : d.storage.edits? es = some s)
    (hrun : (generate o).on { d with storage := s } = (.ok rs, d')) :
    let base := d₀.storage.place (o.base d₀.settings)
    let earlier := rss.flatMap d₀.storage.outputPlaces
    let last := d₀.storage.outputPlaces rs
    ∃ d'', (generate o).on { d with storage := s.emptied base } = (.ok rs, d'') ∧
      (∀ l content, d''.storage.tree.content? l = some content →
        d'.storage.tree.content? l = some content) ∧
      ∀ l, base <+: l → ((d'.storage.tree.content? l).isSome = true ∧
        d''.storage.tree.content? l = none ↔ l ∈ earlier ∧ l ∉ last) := by
  intro base earlier last
  have ho : o.names.Apart := hnames ▸ ResultNames.apart_default
  let e : Desk := { d with storage := s }
  -- What there is when the last run begins.
  have hstart : d₀.After base earlier e := by
    have hafter := (Desk.After.refl hwf hempty).rounds? hnames hpath hdir
      (fun es' hes' => hsketch es' (List.mem_cons_of_mem es hes')) hrounds
    exact hafter.edits? (hsketch es List.mem_cons_self) hedits
  obtain ⟨hfind, files, hfinds⟩ := hstart.finds hpath hdir
  have hswf : e.storage.WellFormed := hstart.wellFormed
  have hfiles : ∀ f ∈ files, f.isSketch = true :=
    fun f hf => Discovery.isSketch_of_mem hfind hfinds.finds hf
  obtain ⟨d'', hrun'⟩ := exists_generate_emptied ho hswf hfind hfinds hrun base
  refine ⟨d'', hrun', fun l content =>
    content?_of_generate_emptied ho hswf hfind hfinds hrun hrun', ?_⟩
  obtain ⟨hrs, -, -⟩ := of_generate_dir_eq_ok ho hrun hfinds.expands
    (Storage.isDir_iff.mpr hfind) hfinds.finds
  obtain ⟨htexts, -⟩ := content?_generate ho hrun hfinds hfiles
  have hlast : ∀ l, e.written? o (some path) files l = none ↔ l ∉ last := by
    intro l
    have hmem : (e.written? o (some path) files l).isSome = true ↔ l ∈ last := by
      rw [Desk.isSome_written?_iff htexts, ← Desk.mem_outputPlaces_iff ho, ← hrs,
        hstart.changed.outputPlaces_eq]
    rw [← hmem, Bool.not_eq_true, Option.isSome_eq_false_iff,
      Option.isNone_iff_eq_none]
  intro l hl
  rw [only_generate_iff ho hswf hfind hfinds hrun hrun' hl, hlast]
  constructor
  · rintro ⟨hnew, hplain, hthere⟩
    exact ⟨(hstart.results l hl hplain).mp hthere, hnew⟩
  · rintro ⟨hearlier, hnew⟩
    have hplain := hstart.plain l hearlier
    exact ⟨hnew, hplain, (hstart.results l hl hplain).mpr hearlier⟩

/-- **What the last run leaves** in an output directory that was empty at first: the
files that a run leaves which finds the same schema files and an empty output
directory, and besides them those results of earlier runs that it has not written
again.  So the last run replaces what was there if and only if it writes to all
places below the output directory where an earlier one has written. -/
theorem rounds_leave (hnames : o.names = {}) (hwf : d₀.storage.WellFormed)
    (hpath : Path.expandHome? d₀.storage.home? o.path = some path)
    (hdir : d₀.storage.isDir path = .ok true)
    (hempty : ∀ l, d₀.storage.place (o.base d₀.settings) <+: l →
      d₀.storage.tree.content? l = none)
    {rounds : List (List Edit)} {es : List Edit} {rss : List (List Results)}
    {s : Storage}
    (hsketch : ∀ es' ∈ es :: rounds, ∀ e ∈ es', e.path.isSketch = true)
    (hrounds : d₀.rounds? o rounds = some (d, rss))
    (hedits : d.storage.edits? es = some s)
    (hrun : (generate o).on { d with storage := s } = (.ok rs, d')) :
    let base := d₀.storage.place (o.base d₀.settings)
    let earlier := rss.flatMap d₀.storage.outputPlaces
    let last := d₀.storage.outputPlaces rs
    ∃ d'', (generate o).on { d with storage := s.emptied base } = (.ok rs, d'') ∧
      (∀ l content, d''.storage.tree.content? l = some content →
        d'.storage.tree.content? l = some content) ∧
      (∀ l, base <+: l → ((d'.storage.tree.content? l).isSome = true ∧
        d''.storage.tree.content? l = none ↔ l ∈ earlier ∧ l ∉ last)) ∧
      ((∀ l, base <+: l →
          d'.storage.tree.content? l = d''.storage.tree.content? l) ↔
        ∀ l ∈ earlier, base <+: l → l ∈ last) := by
  obtain ⟨d'', hrun', hkept, hleft⟩ := exists_leftovers hnames hwf hpath hdir
    hempty hsketch hrounds hedits hrun
  intro base earlier last
  refine ⟨d'', hrun', hkept, hleft, ?_⟩
  constructor
  · intro hsame l hearlier hl
    by_contra hnone
    obtain ⟨hthere, hgone⟩ := (hleft l hl).mpr ⟨hearlier, hnone⟩
    rw [hsame l hl, hgone] at hthere
    cases hthere
  · intro hagain l hl
    cases hthere : d''.storage.tree.content? l with
    | some content => exact hkept l content hthere
    | none =>
        by_contra hne
        have hsome := Option.isSome_iff_ne_none.mpr hne
        obtain ⟨hearlier, hnone⟩ := (hleft l hl).mp ⟨hsome, hthere⟩
        exact hnone (hagain l hearlier hl)

/-- One of two schema files has been removed. -/
def prunedDesk : Desk :=
  { nestedDesk with
    storage.tree := nestedDesk.storage.tree.remove ["w", "a.d2"] }

/-- What evaluation tells about it, and about what there was before. -/
theorem checked_prunedDesk :
    nestedDesk.storage.place (nestedOrder.base nestedDesk.settings) =
        ["w", "out"] ∧
      nestedDesk.storage.place (.ofString "w/a.d2") = ["w", "a.d2"] ∧
      nestedDesk.storage.find (.ofString "w/a.d2") =
        .ok (some (.file (Text.encode "T: {shape: sql_table}".toList))) ∧
      ["w", "out", "a", "schema.sql"] ∈
        nestedDesk.storage.resultPlaces nestedOrder.names
          (nestedOrder.dirOf nestedDesk.settings (some (.ofString "w"))
            (.ofString "w/a.d2")) ∧
      ["w", "out", "a", "schema.sql"] ∉
        nestedDesk.storage.resultPlaces nestedOrder.names
          (nestedOrder.dirOf nestedDesk.settings (some (.ofString "w"))
            (.ofString "w/s/a.d2")) ∧
      prunedDesk.storage.WellFormed ∧
      prunedDesk.storage.find (.ofString "w") = .ok (some .dir) ∧
      ({} : Discovery).find prunedDesk.storage (.ofString "w") =
        .ok [.ofString "w/s/a.d2"] ∧
      Sayable prunedDesk.columns (foundLine 1) ∧
      prunedDesk.Ready nestedOrder (some (.ofString "w")) nestedRoom
        (.ofString "w/s/a.d2") := by
  decide +kernel

/-- It is removed after a run on both. -/
theorem rounds_nestedDesk : ∃ rs d s,
    nestedDesk.rounds? nestedOrder [[]] = some (d, [rs]) ∧
    d.storage.edits? [.delete (.ofString "w/a.d2")] = some s ∧
    d.settings = prunedDesk.settings ∧ d.columns = prunedDesk.columns ∧
    s.WellFormed ∧ s.Fits nestedRoom ∧
    prunedDesk.storage.Changed (nestedDesk.IsResult nestedOrder
      (some (.ofString "w")) nestedFiles) s ∧
    ["w", "out", "a", "schema.sql"] ∈ nestedDesk.storage.outputPlaces rs := by
  have ho : nestedOrder.names.Apart := ResultNames.apart_default
  obtain ⟨hwf, -, hpath, hdir, -⟩ := checked_nestedDesk
  obtain ⟨-, hat, hfile, hearlier, -⟩ := checked_prunedDesk
  obtain ⟨rs, d, hrun, hfits⟩ := generate_nestedDesk
  obtain ⟨hrs, hgrown, -⟩ :=
    of_generate_dir_eq_ok ho hrun hpath hdir finds_nestedDesk.finds
  have hcolumns := columns_generate nestedOrder nestedDesk
  have hwf' := wellFormed_generate nestedOrder hwf
  rw [hrun] at hcolumns hwf'
  have hround : nestedDesk.round? nestedOrder [] = some (d, rs) := by
    show (match (generate nestedOrder).on nestedDesk with
      | (.ok rs, d') => some (d', rs)
      | (.error _, _) => none) = _
    rw [hrun]
  have hrounds : nestedDesk.rounds? nestedOrder [[]] = some (d, [rs]) := by
    rw [Desk.rounds?, hround]
    rfl
  have hfind := hgrown.storage.find_file hfile
    (Desk.not_isResult_of_isSketch ho (by decide))
  let s : Storage := { d.storage with tree := d.storage.tree.remove ["w", "a.d2"] }
  have hedit : d.storage.edit? (.delete (.ofString "w/a.d2")) = some s := by
    rw [Storage.edit?, hfind, hgrown.storage.place_eq, hat]
  have hedits : d.storage.edits? [.delete (.ofString "w/a.d2")] = some s := by
    rw [Storage.edits?, hedit]
    rfl
  refine ⟨rs, d, s, hrounds, hedits, hgrown.settings, hcolumns,
    (Storage.changed_edit? hedit).2 hwf', hfits.remove (by decide),
    hgrown.storage.changed.remove (by decide), ?_⟩
  rw [hrs, Storage.outputPlaces_map ho]
  exact List.mem_flatMap.mpr ⟨.ofString "w/a.d2", List.mem_cons_self, hearlier⟩

/-- Another run finds the schema file that is left. -/
theorem generate_prunedDesk : ∃ rs₁ d s rs d',
    nestedDesk.rounds? nestedOrder [[]] = some (d, [rs₁]) ∧
    d.storage.edits? [.delete (.ofString "w/a.d2")] = some s ∧
    (generate nestedOrder).on { d with storage := s } = (.ok rs, d') ∧
    ["w", "out", "a", "schema.sql"] ∈ nestedDesk.storage.outputPlaces rs₁ ∧
    ["w", "out", "a", "schema.sql"] ∉ nestedDesk.storage.outputPlaces rs := by
  have ho : nestedOrder.names.Apart := ResultNames.apart_default
  obtain ⟨rs₁, d, s, hrounds, hedits, hsettings, hcolumns, hwf, hfits, hchanged,
    hearlier⟩ := rounds_nestedDesk
  obtain ⟨-, -, -, -, hlast, hwfpruned, hdir, hfiles, htold, hready⟩ :=
    checked_prunedDesk
  let e : Desk := { d with storage := s }
  have hdir' := hchanged.find_dir hdir
  have hfiles' : ({} : Discovery).find s (.ofString "w") =
      .ok [.ofString "w/s/a.d2"] := by
    rw [Discovery.find_of_changed hchanged hwfpruned hwf hdir
      fun l hl => Desk.isSketch_of_isResult ho hl]
    exact hfiles
  have hfinds : e.Finds nestedOrder (.ofString "w") (some (.ofString "w"))
      [.ofString "w/s/a.d2"] := by
    refine ⟨?_, hfiles', false, Storage.isFile_of_dir hdir', rfl⟩
    rw [hchanged.home?_eq]
    exact finds_nestedDesk.expands
  have hready' : ∀ f ∈ [Path.ofString "w/s/a.d2"],
      e.Ready nestedOrder (some (.ofString "w")) nestedRoom f := by
    intro f hf
    obtain rfl := List.mem_singleton.mp hf
    exact hready.changed hsettings hcolumns hchanged
      (Desk.not_isResult_of_isSketch (d := nestedDesk) ho hready.sketch)
  have htold' : Sayable e.columns (foundLine 1) := by
    show Sayable d.columns (foundLine 1)
    rw [hcolumns]
    exact htold
  obtain ⟨rs, d', hrun, -⟩ := exists_generate_of_ready ho hwf hfits hfinds hdir'
    htold' hready'
  obtain ⟨hrs, -, -⟩ := of_generate_dir_eq_ok ho hrun hfinds.expands
    (Storage.isDir_iff.mpr hdir') hfiles'
  refine ⟨rs₁, d, s, rs, d', hrounds, hedits, hrun, hearlier, ?_⟩
  have hsame : e.settings = nestedDesk.settings := hsettings
  rw [hrs, Storage.outputPlaces_map ho, hsame, List.flatMap_singleton]
  exact hlast

theorem empty_nestedDesk : ∀ l,
    nestedDesk.storage.place (nestedOrder.base nestedDesk.settings) <+: l →
      nestedDesk.storage.tree.content? l = none := by
  intro l hl
  rw [checked_prunedDesk.1] at hl
  exact FileTree.content?_eq_none_below (by decide) hl

/-- The last run leaves a result of the schema file that was removed, and a run in an
empty directory does not. -/
theorem rounds_leave_of_prunedDesk : ∃ rss d s rs d' d'',
    nestedDesk.rounds? nestedOrder [[]] = some (d, rss) ∧
    d.storage.edits? [.delete (.ofString "w/a.d2")] = some s ∧
    (generate nestedOrder).on { d with storage := s } = (.ok rs, d') ∧
    (generate nestedOrder).on { d with storage := s.emptied ["w", "out"] } =
      (.ok rs, d'') ∧
    (d'.storage.tree.content? ["w", "out", "a", "schema.sql"]).isSome = true ∧
    d''.storage.tree.content? ["w", "out", "a", "schema.sql"] = none := by
  obtain ⟨rs₁, d, s, rs, d', hrounds, hedits, hrun, hearlier, hlast⟩ :=
    generate_prunedDesk
  obtain ⟨hwf, -, hpath, hdir, -⟩ := checked_nestedDesk
  obtain ⟨d'', hrun', -, hleft, -⟩ := rounds_leave rfl hwf hpath hdir
    empty_nestedDesk (by decide) hrounds hedits hrun
  rw [checked_prunedDesk.1] at hrun' hleft
  refine ⟨[rs₁], d, s, rs, d', d'', hrounds, hedits, hrun, hrun', ?_⟩
  refine (hleft ["w", "out", "a", "schema.sql"] (by decide)).mpr ⟨?_, hlast⟩
  rw [List.flatMap_singleton]
  exact hearlier

/-- So a run does not replace what was there. -/
theorem leftover_of_prunedDesk : ∃ rss d s rs d' d'',
    nestedDesk.rounds? nestedOrder [[]] = some (d, rss) ∧
    d.storage.edits? [.delete (.ofString "w/a.d2")] = some s ∧
    (generate nestedOrder).on { d with storage := s } = (.ok rs, d') ∧
    (generate nestedOrder).on { d with storage := s.emptied ["w", "out"] } =
      (.ok rs, d'') ∧
    ¬ ∀ l, ["w", "out"] <+: l →
      d'.storage.tree.content? l = d''.storage.tree.content? l := by
  obtain ⟨rs₁, d, s, rs, d', hrounds, hedits, hrun, hearlier, hlast⟩ :=
    generate_prunedDesk
  obtain ⟨hwf, -, hpath, hdir, -⟩ := checked_nestedDesk
  obtain ⟨d'', hrun', -, hleft⟩ := exists_leftovers rfl hwf hpath hdir
    empty_nestedDesk (by decide) hrounds hedits hrun
  rw [checked_prunedDesk.1] at hrun' hleft
  refine ⟨[rs₁], d, s, rs, d', d'', hrounds, hedits, hrun, hrun', ?_⟩
  intro hsame
  have hbelow : ["w", "out"] <+: ["w", "out", "a", "schema.sql"] := by decide
  obtain ⟨hthere, hgone⟩ := (hleft _ hbelow).mpr
    ⟨by rw [List.flatMap_singleton]; exact hearlier, hlast⟩
  rw [hsame _ hbelow, hgone] at hthere
  cases hthere

end Work

end TableSketch
