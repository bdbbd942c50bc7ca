import TableSketch.Proofs.Storage.Invariant
import TableSketch.Proofs.Storage.Search

/-!
# Names and stems

A text names something in a directory if it is not empty, holds no slash, and is
none of the two parts that say how to go on without saying where: `.` and `..`
(`Path.isName_iff`).  What is left of a name without its suffix is not always a
name: the names `..d2` and `...d2` have the suffix `.d2`, and in front of it stand
`.` and `..`.  So a stem that is taken for the name of a directory is one, or it
leads nowhere, or it leads back (`Path.isName_stem`, `Storage.place_child_stem`).

## Main results

* `Path.isName_iff` — which texts are names.
* `Path.isName_stem` — which stems are names.
* `Storage.place_child_stem` — where a stem leads.
-/

namespace TableSketch

namespace Path

variable {p : Path} {name : String}

/-! ## Names -/

/-- A text without a slash is a single part, if it says anything. -/
theorem ofString_of_not_mem (h : '/' ∉ name.toList) :
    ofString name =
      ⟨.relative, if name = "" ∨ name = "." then [] else [name]⟩ := by
  have hslash : ∀ c ∈ name.toList, (c == '/') = false := by
    intro c hc
    have hne : c ≠ '/' := by
      rintro rfl
      exact h hc
    simpa using hne
  have hanchor : anchorOf name.toList = .relative := by
    unfold anchorOf
    cases hchars : name.toList with
    | nil => rfl
    | cons c cs =>
        have hc : (c == '/') = false := hslash c (by simp [hchars])
        rw [List.takeWhile_cons, if_neg (by simp [hc])]
        rfl
  have hpieces : Text.pieces (· == '/') name.toList = [name.toList] :=
    Text.pieces_eq_singleton hslash
  have hempty : name.toList = [] ↔ name = "" := by simp
  have hdot : name.toList = ['.'] ↔ name = "." := by
    rw [← String.toList_inj]
    rfl
  rw [ofString, hanchor, partsOf, hpieces]
  by_cases hvoid : name = "" ∨ name = "."
  · rw [if_pos hvoid]
    rcases hvoid with rfl | rfl
    · rfl
    · rfl
  · rw [if_neg hvoid]
    rw [not_or, ← hempty, ← hdot] at hvoid
    simp [hvoid.1, hvoid.2]

/-- A name holds no slash. -/
theorem IsName.slash_not_mem (h : IsName name) : '/' ∉ name.toList := by
  have hparts : partsOf name.toList = [name] := congrArg Path.parts h.single
  have hmem : name ∈ partsOf name.toList := by
    rw [hparts]
    exact List.mem_singleton_self name
  obtain ⟨piece, hpiece, rfl⟩ := List.mem_map.mp hmem
  intro hslash
  rw [String.toList_ofList] at hslash
  have hsep := Text.not_sep_of_mem_pieces (List.mem_filter.mp hpiece).1 _ hslash
  simp at hsep

/-- **The texts that are names.** -/
theorem isName_iff : IsName name ↔
    name ≠ "" ∧ name ≠ "." ∧ name ≠ ".." ∧ '/' ∉ name.toList := by
  constructor
  · intro h
    have hvoid : ¬ (name = "" ∨ name = ".") := by
      intro hvoid
      have hsingle := h.single
      rw [ofString_of_not_mem h.slash_not_mem, if_pos hvoid] at hsingle
      cases hsingle
    rw [not_or] at hvoid
    exact ⟨hvoid.1, hvoid.2, h.forth, h.slash_not_mem⟩
  · rintro ⟨hempty, hdot, hforth, hslash⟩
    refine ⟨?_, hforth⟩
    rw [ofString_of_not_mem hslash, if_neg (not_or.mpr ⟨hempty, hdot⟩)]

instance decidableIsName (name : String) : Decidable (IsName name) :=
  decidable_of_iff (ofString name = ⟨.relative, [name]⟩ ∧ name ≠ "..")
    ⟨fun h => ⟨h.1, h.2⟩, fun h => ⟨h.single, h.forth⟩⟩

/-! ## Stems -/

/-- A name is its stem with its suffix behind it. -/
theorem splitSuffix_append (name : List Char) :
    (splitSuffix name).1 ++ (splitSuffix name).2 = name := by
  have hcut := congrArg List.reverse
    (List.takeWhile_append_dropWhile (p := (· != '.')) (l := name.reverse))
  rw [List.reverse_append, List.reverse_reverse] at hcut
  unfold splitSuffix
  dsimp only
  split
  · simp
  · simp
  · next c stem _ hrest =>
      split
      · simp
      · have hc : c = '.' := by
          have hhead := List.head?_dropWhile_not (· != '.') name.reverse
          rw [hrest] at hhead
          simpa using hhead
        rw [hrest, hc] at hcut
        simpa using hcut

theorem splitSuffix_fst_ne_nil {name : List Char} (h : name ≠ []) :
    (splitSuffix name).1 ≠ [] := by
  unfold splitSuffix
  dsimp only
  split
  · exact h
  · exact h
  · next c stem hstem hrest =>
      split
      · exact h
      · intro hnil
        exact hstem (by simpa using hnil)

theorem stem_ne_empty (h : p.name ≠ "") : p.stem ≠ "" := by
  intro hempty
  have hname : p.name.toList ≠ [] := by simpa using h
  have hchars := splitSuffix_fst_ne_nil hname
  rw [stem, String.ofList_eq_empty_iff] at hempty
  exact hchars hempty

theorem slash_not_mem_stem (h : '/' ∉ p.name.toList) : '/' ∉ p.stem.toList := by
  intro hslash
  rw [stem, String.toList_ofList] at hslash
  rw [← splitSuffix_append p.name.toList] at h
  exact h (List.mem_append_left _ hslash)

/-- A file has a proper stem if that says where to go on from a directory. -/
def HasProperStem (p : Path) : Prop :=
  p.stem ≠ "." ∧ p.stem ≠ ".."

/-- **The stem of a name** is a name, or it leads nowhere, or it leads back. -/
theorem isName_stem (h : IsName p.name) (hstem : p.HasProperStem) :
    IsName p.stem := by
  obtain ⟨hempty, -, -, hslash⟩ := isName_iff.mp h
  exact isName_iff.mpr
    ⟨stem_ne_empty hempty, hstem.1, hstem.2, slash_not_mem_stem hslash⟩

end Path

namespace Storage

variable {s : Storage} {p : Path}

/-- **Where a stem leads** from a directory. -/
theorem place_child_stem (h : Path.IsName p.name) (s : Storage) (dir : Path) :
    s.place (dir.child p.stem) =
      if p.stem = "." then s.place dir
      else if p.stem = ".." then (s.place dir).dropLast
      else s.place dir ++ [p.stem] := by
  by_cases hdot : p.stem = "."
  · rw [if_pos hdot, hdot]
    show s.place { dir with parts := dir.parts ++ [] } = s.place dir
    rw [List.append_nil]
  · rw [if_neg hdot]
    by_cases hback : p.stem = ".."
    · rw [if_pos hback, hback]
      show fold (s.start dir) (dir.parts ++ [".."]) = (s.place dir).dropLast
      rw [fold_append]
      rfl
    · rw [if_neg hback]
      exact place_child (Path.isName_stem h ⟨hdot, hback⟩) s dir

end Storage

end TableSketch
