import Mathlib.Data.List.Lex
import TableSketch.Proofs.Storage.Listing

/-!
# What a search finds

A search in a directory is told in two ways: by what it does, which is to list files,
to drop some of them and to sort the rest, and by what it is to find
(`Discovery.Wanted`).  Here the two are shown to agree.  A file is wanted for its
suffix and for the names of the directories between the searched one and itself.  What
the file is called apart from its suffix does not count, and neither do the parts of
the searched path.

The order of paths is the lexicographic one, part by part (`Path.lex_of_before`), and
what is found increases strictly in it.  So there is one list only that holds what is
wanted, and in whichever order a directory names its entries, the search gives that
list.

## Main results

* `Path.lex_of_before` — the order of paths.
* `FileTree.node?_of_perm` — entries in another order.
* `Discovery.wanted_iff` — what is wanted is what is listed.
* `Discovery.find_exact` — what a search finds.
-/

namespace TableSketch

namespace Path

variable {a b : List String}

/-- Parts that come before others, and are not the same, come before them in the
lexicographic order. -/
theorem lex_of_before (h : before a b = true) (hne : a ≠ b) :
    List.Lex (· < ·) a b := by
  induction a generalizing b with
  | nil =>
      cases b with
      | nil => exact absurd rfl hne
      | cons y ys => exact List.Lex.nil
  | cons x xs ih =>
      cases b with
      | nil => cases h
      | cons y ys =>
          unfold before at h
          by_cases hxy : x = y
          · subst hxy
            rw [if_pos rfl] at h
            exact List.Lex.cons (ih h fun heq => hne (congrArg _ heq))
          · rw [if_neg hxy, decide_eq_true_eq] at h
            exact List.Lex.rel h

end Path

namespace FileTree

variable {t t' : FileTree}

/-- What stands where does not depend on the order of the entries. -/
theorem node?_of_perm (h : t.WellFormed) (hperm : t'.entries.Perm t.entries)
    (l : Location) : t'.node? l = t.node? l := by
  by_cases hl : l = []
  · subst hl
    rfl
  · have hdistinct : (t'.entries.map Prod.fst).Nodup :=
      (hperm.map Prod.fst).nodup_iff.mpr h.distinct
    apply Option.ext
    intro n
    constructor
    · intro hnode
      exact h.node?_of_mem (hperm.subset (mem_of_node? hl hnode))
    · intro hnode
      rw [node?_of_ne_nil hl]
      exact lookup_of_mem hdistinct (hperm.mem_iff.mpr (mem_of_node? hl hnode))

theorem WellFormed.perm (h : t.WellFormed) (hperm : t'.entries.Perm t.entries) :
    t'.WellFormed := by
  refine ⟨(hperm.map Prod.fst).nodup_iff.mpr h.distinct, fun e he => ?_⟩
  rw [node?_of_perm h hperm]
  exact h.inDirs e (hperm.subset he)

end FileTree

namespace Discovery

variable {d : Discovery} {s : Storage} {p f : Path}

/-- A file that a search in a directory is to find.  There is a way to it from the
directory, its suffix in lower case is one of those that are asked for, and no
directory on the way is called by a name that is passed over. -/
def Wanted (d : Discovery) (s : Storage) (p f : Path) : Prop :=
  ∃ way name, f = { p with parts := p.parts ++ way ++ [name] } ∧
    (∃ content,
      s.tree.node? (s.place p ++ way ++ [name]) = some (.file content)) ∧
    Text.lower f.suffix ∈ d.suffixes ∧ ∀ dir ∈ way, dir ∉ d.skipped

/-- A file is accepted for its suffix and for the directories on the way to it. -/
theorem accepts_concat_iff (d : Discovery) (p : Path) (way : List String)
    (name : String) :
    d.accepts (way ++ [name]) = true ↔
      Text.lower
          (Path.suffix { p with parts := p.parts ++ way ++ [name] }) ∈ d.suffixes ∧
        ∀ dir ∈ way, dir ∉ d.skipped := by
  have hname : (⟨.relative, way ++ [name]⟩ : Path).name =
      ({ p with parts := p.parts ++ way ++ [name] } : Path).name := by
    simp [Path.name]
  have hsuffix : Path.suffix ⟨.relative, way ++ [name]⟩ =
      Path.suffix { p with parts := p.parts ++ way ++ [name] } := by
    rw [Path.suffix, Path.suffix, hname]
  rw [accepts, hsuffix, List.dropLast_concat]
  simp

/-- **What is wanted is what is listed** below the directory. -/
theorem wanted_iff (hwf : s.tree.WellFormed) (hdir : s.find p = .ok (some .dir)) :
    d.Wanted s p f ↔ ∃ r ∈ d.filesBelow s.tree (s.place p),
      f = { p with parts := p.parts ++ r } := by
  constructor
  · rintro ⟨way, name, rfl, hfile, hcounts⟩
    rw [List.append_assoc] at hfile
    refine ⟨way ++ [name], ?_, by rw [List.append_assoc]⟩
    rw [mem_filesBelow_iff hwf]
    exact ⟨(accepts_concat_iff d p way name).mpr hcounts, hfile⟩
  · rintro ⟨r, hr, rfl⟩
    obtain ⟨haccepts, content, hfile⟩ := (mem_filesBelow_iff hwf).mp hr
    rcases List.eq_nil_or_concat r with rfl | ⟨way, name, rfl⟩
    · -- The directory itself is no file.
      rw [List.append_nil, (Storage.find_eq_some hdir).2] at hfile
      cases hfile
    · rw [List.concat_eq_append] at haccepts hfile ⊢
      rw [← List.append_assoc] at hfile
      rw [← List.append_assoc]
      exact ⟨way, name, rfl, ⟨content, hfile⟩,
        (accepts_concat_iff d p way name).mp haccepts⟩

/-- What is listed increases strictly. -/
theorem pairwise_lex_filesBelow (hwf : s.tree.WellFormed) (l : Location) :
    (d.filesBelow s.tree l).Pairwise (List.Lex (· < ·)) := by
  refine (pairwise_filesBelow d s.tree l).imp₂ ?_ (nodup_filesBelow hwf)
  intro a b hbefore hne
  exact Path.lex_of_before hbefore hne

/-- A search does not depend on the order of the entries. -/
theorem find_of_perm (d : Discovery) (hwf : s.tree.WellFormed)
    (hdir : s.find p = .ok (some .dir)) {t : FileTree}
    (hperm : t.entries.Perm s.tree.entries) :
    d.find { s with tree := t } p = d.find s p := by
  have hsame := FileTree.node?_of_perm hwf hperm
  have hchanged : s.Changed (fun _ => False) { s with tree := t } := by
    refine ⟨rfl, fun l hl => (hsame l).trans hl, fun l _ => ?_⟩
    show t.content? l = s.tree.content? l
    rw [FileTree.content?, FileTree.content?, hsame]
  have hfiles : d.filesBelow t (s.place p) = d.filesBelow s.tree (s.place p) :=
    filesBelow_congr hwf (hwf.perm hperm) fun r _ => by rw [hsame]
  rw [find_of_dir d (hchanged.find_dir hdir), hchanged.place_eq, hfiles,
    find_of_dir d hdir]

/-- **What a search finds.**  In a directory these are the files that are wanted, in
the strict order of paths, in whichever order the tree names what is in it; and a path
to a file stands for that file, whatever its suffix. -/
theorem find_exact (d : Discovery) (s : Storage) (hwf : s.tree.WellFormed)
    (p : Path) :
    (s.find p = .ok (some .dir) → ∃ found, d.find s p = .ok found ∧
      found.Pairwise (fun f g => List.Lex (· < ·) f.parts g.parts) ∧
      found.Nodup ∧
      (∀ f, f ∈ found ↔ d.Wanted s p f) ∧
      ∀ t : FileTree, t.entries.Perm s.tree.entries →
        d.find { s with tree := t } p = .ok found) ∧
    ∀ content, s.find p = .ok (some (.file content)) → d.find s p = .ok [p] := by
  refine ⟨fun hdir => ?_, fun content hfile => find_of_file d hfile⟩
  have hfound := find_of_dir d hdir
  have hordered : ((d.filesBelow s.tree (s.place p)).map fun parts =>
      { p with parts := p.parts ++ parts }).Pairwise
        (fun f g : Path => List.Lex (· < ·) f.parts g.parts) := by
    rw [List.pairwise_map]
    exact (pairwise_lex_filesBelow hwf _).imp fun hlex =>
      hlex.append_left _ p.parts
  refine ⟨_, hfound, hordered, ?_, ?_, ?_⟩
  · refine hordered.imp ?_
    rintro f g hlex rfl
    exact List.lt_irrefl f.parts hlex
  · intro f
    rw [wanted_iff hwf hdir, List.mem_map]
    exact exists_congr fun r => and_congr_right fun _ => eq_comm
  · intro t hperm
    rw [find_of_perm d hwf hdir hperm, hfound]

/-- A file and a directory of one name, which is passed over, as is that of the directory
in which they are searched. -/
def namesakes : Storage where
  tree := ⟨[(["w"], .dir), (["w", "x.d2"], .file []), (["w", "s"], .dir),
    (["w", "s", "x.d2"], .dir), (["w", "s", "x.d2", "a.d2"], .file []),
    (["w", "s", "B.D2"], .file [])]⟩

/-- Names count on the way to a file, and nowhere else. -/
theorem find_exact_of_namesakes :
    let d : Discovery := { skipped := ["w", "x.d2"] }
    d.find namesakes (.ofString "w/x.d2") = .ok [.ofString "w/x.d2"] ∧
    ∃ found, d.find namesakes (.ofString "w") = .ok found ∧
      .ofString "w/s/B.D2" ∈ found ∧ .ofString "w/x.d2" ∈ found ∧
      .ofString "w/s/x.d2/a.d2" ∉ found ∧
      d.find { tree := ⟨namesakes.tree.entries.reverse⟩ } (.ofString "w") =
        .ok found := by
  intro d
  have hwf : namesakes.tree.WellFormed := by decide
  refine ⟨(find_exact d namesakes hwf (.ofString "w/x.d2")).2 [] (by decide), ?_⟩
  obtain ⟨found, hfound, -, -, hwanted, hperm⟩ :=
    (find_exact d namesakes hwf (.ofString "w")).1 (by decide)
  refine ⟨found, hfound, ?_, ?_, ?_, hperm _ (List.reverse_perm _)⟩
  · exact (hwanted _).mpr ⟨["s"], "B.D2", rfl, ⟨[], by decide⟩, by decide, by decide⟩
  · exact (hwanted _).mpr ⟨[], "x.d2", rfl, ⟨[], by decide⟩, by decide, by decide⟩
  · intro hmem
    obtain ⟨way, name, hpath, -, -, hway⟩ := (hwanted _).mp hmem
    have hparts : ["w", "s", "x.d2"] = "w" :: way := by
      have hfront := congrArg (fun f => f.parts.dropLast) hpath
      rwa [List.dropLast_concat] at hfront
    obtain rfl := (List.cons.inj hparts).2
    exact hway "x.d2" (by decide) (by decide)

end Discovery

end TableSketch
