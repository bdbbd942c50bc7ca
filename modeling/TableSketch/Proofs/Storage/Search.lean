import TableSketch.Proofs.Storage.Writing
import TableSketch.Storage.Discovery

/-!
# Searching for schema files

What a search finds depends on the tree below a directory only as far as files
with an accepted name go.  So a tree may grow by files with other names, and the
search still finds the same files in the same order (`Discovery.find_of_grown`).

That two paths denote different places is seen from their last names, if these
say where to go on: `..` goes back, and a name that holds a slash goes on by
more than one step.  What a search finds always ends in such a name, because
`..` has no suffix (`Storage.place_of_isSketch`).

## Main results

* `Storage.place_child` — the place of a name in a directory.
* `Storage.place_ne_child` — no sketch is where another name leads.
* `Discovery.filesBelow_of_grown`, `Discovery.find_of_grown` — a search after
  a growth.
-/

namespace TableSketch

namespace Path

variable {p q : Path} {name : String}

/-- A text that names something in a directory. -/
structure IsName (name : String) : Prop where
  /-- It is a single part. -/
  single : ofString name = ⟨.relative, [name]⟩
  /-- It does not go back. -/
  forth : name ≠ ".."

theorem child_of_isName (h : IsName name) (p : Path) :
    p.child name = { p with parts := p.parts ++ [name] } := by
  rw [child, h.single, join_relative]

/-- Whether a path leads to a sketch depends on its name. -/
theorem isSketch_congr (h : p.name = q.name) : p.isSketch = q.isSketch := by
  rw [isSketch, isSketch, suffix, suffix, h]

theorem name_concat (p : Path) (name : String) :
    ({ p with parts := p.parts ++ [name] } : Path).name = name := by
  simp [Path.name]

/-- A path to a sketch ends in a name that does not go back. -/
theorem exists_parts_of_isSketch (h : p.isSketch = true) :
    ∃ front, p.parts = front ++ [p.name] ∧ p.name ≠ ".." := by
  have hempty : p.parts ≠ [] := by
    intro hnil
    have hname : p.name = (⟨.relative, []⟩ : Path).name := by
      rw [name, hnil]
      rfl
    rw [isSketch_congr hname] at h
    revert h
    decide
  refine ⟨p.parts.dropLast, ?_, ?_⟩
  · have hlast : p.name = p.parts.getLast hempty := by
      rw [name, List.getLast?_eq_getLast_of_ne_nil hempty]
      rfl
    rw [hlast, List.dropLast_append_getLast]
  · intro hback
    have hname : p.name = (⟨.relative, [".."]⟩ : Path).name := hback
    rw [isSketch_congr hname] at h
    revert h
    decide

end Path

/-! ## Places -/

namespace Storage

variable {s : Storage} {p : Path} {name : String}

theorem fold_append (here : Location) (parts more : List String) :
    fold here (parts ++ more) = fold (fold here parts) more :=
  List.foldl_append

theorem place_concat (s : Storage) (p : Path) (h : name ≠ "..") :
    s.place { p with parts := p.parts ++ [name] } = s.place p ++ [name] := by
  have hlast : ∀ here : Location, fold here [name] = here ++ [name] :=
    fun _ => if_neg h
  rw [place, fold_append, hlast]
  rfl

theorem place_child (h : Path.IsName name) (s : Storage) (p : Path) :
    s.place (p.child name) = s.place p ++ [name] := by
  rw [Path.child_of_isName h, place_concat s p h.forth]

theorem place_of_isSketch (h : p.isSketch = true) (s : Storage) :
    ∃ l, s.place p = l ++ [p.name] := by
  obtain ⟨front, hparts, hforth⟩ := Path.exists_parts_of_isSketch h
  refine ⟨s.place { p with parts := front }, ?_⟩
  rw [← place_concat s _ hforth, ← hparts]

/-- No sketch is where a name leads that is none of a sketch. -/
theorem place_ne_child (h : p.isSketch = true) (hname : Path.IsName name)
    (hsketch : (Path.ofString name).isSketch = false) (s : Storage)
    (dir : Path) : s.place p ≠ s.place dir ++ [name] := by
  intro heq
  obtain ⟨l, hl⟩ := place_of_isSketch h s
  rw [hl] at heq
  have hlast : p.name = name := List.singleton_inj.mp
    (List.append_inj_right' heq rfl)
  have hsame : p.name = (Path.ofString name).name := by
    rw [hname.single]
    exact hlast
  rw [Path.isSketch_congr hsame, hsketch] at h
  cases h

end Storage

/-! ## Searches -/

namespace FileTree

variable {dir l r : Location}

theorem below?_eq_some_iff : below? dir l = some r ↔ l = dir ++ r := by
  induction dir generalizing l with
  | nil => simp [below?]
  | cons d ds ih =>
      cases l with
      | nil => simp [below?]
      | cons n ns =>
          by_cases hd : d = n
          · subst hd
            simp [below?, ih]
          · simp [below?, hd, Ne.symm hd]

end FileTree

namespace Discovery

open FileTree (below?)

variable {t t' : FileTree} {s s' : Storage} {L : Location → Prop}

/-- A search passes over what it does not accept, so that this may be left out
before. -/
theorem filter_filterMap_below (d : Discovery) (dir : Location)
    (fs : List (Location × List UInt8)) :
    (fs.filterMap fun f => below? dir f.1).filter d.accepts =
      ((fs.filter fun f => (below? dir f.1).any d.accepts).filterMap
        fun f => below? dir f.1).filter d.accepts := by
  induction fs with
  | nil => rfl
  | cons f fs ih =>
      cases hf : below? dir f.1 with
      | none => simp [hf, ih]
      | some r =>
          cases hr : d.accepts r with
          | true => simp [hf, hr, ih]
          | false => simp [hf, hr, ih]

/-- A search finds the same files when only others have changed. -/
theorem filesBelow_of_grown (d : Discovery) {dir : Location}
    (h : t.Grown L t') (hL : ∀ r, L (dir ++ r) → d.accepts r = false) :
    d.filesBelow t' dir = d.filesBelow t dir := by
  have hkeep : ∀ l, (below? dir l).any d.accepts = true → ¬ L l := by
    intro l hl hchanged
    obtain ⟨r, hr, haccepts⟩ := (Option.any_eq_true _ _).mp hl
    rw [FileTree.below?_eq_some_iff.mp hr] at hchanged
    rw [hL r hchanged] at haccepts
    cases haccepts
  have hchosen := h.chosen (fun l => (below? dir l).any d.accepts) hkeep
  have hsame : (t'.filesBelow dir).filter d.accepts =
      (t.filesBelow dir).filter d.accepts := by
    rw [FileTree.filesBelow, FileTree.filesBelow, filter_filterMap_below,
      hchosen, ← filter_filterMap_below]
  rw [filesBelow, filesBelow, hsame]

/-- The search in a directory. -/
theorem find_of_dir (d : Discovery) {p : Path}
    (h : s.find p = .ok (some .dir)) :
    d.find s p = .ok ((d.filesBelow s.tree (s.place p)).map fun parts =>
      { p with parts := p.parts ++ parts }) := by
  obtain ⟨hl, -⟩ := Storage.find_eq_some h
  rw [find, h, hl]
  rfl

/-- A path to a file stands for itself. -/
theorem find_of_file (d : Discovery) {p : Path} {content : List UInt8}
    (h : s.find p = .ok (some (.file content))) : d.find s p = .ok [p] := by
  rw [find, h]
  rfl

/-- A search where something is never fails. -/
theorem exists_find (d : Discovery) {p : Path} {n : Node}
    (h : s.find p = .ok (some n)) : ∃ files, d.find s p = .ok files := by
  cases n with
  | dir => exact ⟨_, d.find_of_dir h⟩
  | file content => exact ⟨_, d.find_of_file h⟩

/-- What is accepted is a sketch. -/
theorem isSketch_of_accepts {r : Location}
    (h : ({} : Discovery).accepts r = true) :
    (⟨.relative, r⟩ : Path).isSketch = true := by
  rw [accepts, Bool.and_eq_true] at h
  have hsuffix := h.1
  rw [List.contains_cons, List.contains_nil, Bool.or_false] at hsuffix
  exact hsuffix

/-- What is accepted below a directory is a sketch, seen from anywhere. -/
theorem isSketch_of_accepts_below {r : Location} (front : List String)
    (anchor : Anchor) (h : ({} : Discovery).accepts r = true) :
    (⟨anchor, front ++ r⟩ : Path).isSketch = true := by
  have hsketch := isSketch_of_accepts h
  obtain ⟨front', hparts, -⟩ := Path.exists_parts_of_isSketch hsketch
  have hr : r ≠ [] := by
    intro hnil
    rw [hnil] at hparts
    simp at hparts
  have hname : (⟨anchor, front ++ r⟩ : Path).name =
      (⟨.relative, r⟩ : Path).name := by
    simp only [Path.name]
    rw [List.getLast?_append_of_ne_nil _ hr]
  rw [Path.isSketch_congr hname, hsketch]

/-- What a search in a directory finds are sketches. -/
theorem isSketch_of_mem {p f : Path} {files : List Path}
    (h : s.find p = .ok (some .dir))
    (hfind : ({} : Discovery).find s p = .ok files) (hf : f ∈ files) :
    f.isSketch = true := by
  rw [find_of_dir _ h] at hfind
  obtain rfl := Except.ok.inj hfind
  obtain ⟨r, hr, rfl⟩ := List.mem_map.mp hf
  have haccepts : ({} : Discovery).accepts r = true := by
    rw [filesBelow, List.mem_mergeSort] at hr
    exact (List.mem_filter.mp hr).2
  exact isSketch_of_accepts_below _ _ haccepts

/-- A search finds the same sketches when none of them has changed. -/
theorem find_of_grown {p : Path} (h : Storage.Grown L s s')
    (hdir : s.find p = .ok (some .dir))
    (hL : ∀ l, L l → (⟨.relative, l⟩ : Path).isSketch = false) :
    ({} : Discovery).find s' p = ({} : Discovery).find s p := by
  rw [find_of_dir _ hdir, find_of_dir _ (h.find_dir hdir), h.place_eq,
    filesBelow_of_grown _ h.tree]
  intro r hchanged
  by_contra haccepts
  rw [Bool.not_eq_false] at haccepts
  have hsketch := isSketch_of_accepts_below (s.place p) .relative haccepts
  rw [hL _ hchanged] at hsketch
  cases hsketch

end Discovery

end TableSketch
