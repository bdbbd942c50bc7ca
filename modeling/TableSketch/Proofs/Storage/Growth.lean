import Mathlib.Data.List.Basic
import TableSketch.Storage.FileTree

/-!
# Trees that grow

Making a directory where nothing is and writing a file are the only things that
a run does to a tree.  Neither takes anything away: directories stay, files stay
files, and what is changed about files is changed at places that can be named.
`FileTree.Grown` is what holds between the tree before and the tree after any
number of such changes.

The files of a tree have an order, which a search for files keeps.  So it is not
enough that the same files are there.  Whatever is chosen of the files by their
locations is the same list before and after, if no place that was changed is
chosen (`FileTree.Grown.chosen`).

## Main results

* `FileTree.node?_put_self`, `FileTree.node?_put_of_ne` — what stands where.
* `FileTree.grown_put_dir`, `FileTree.grown_put_file` — what one change does.
* `FileTree.Grown.trans` — and what many do.
-/

namespace TableSketch

/-! ## Replacing what belongs to a key -/

section Replace

variable {α β : Type} [BEq α] [LawfulBEq α] {es : List (α × β)} {a a' : α}

theorem lookup_map_replace_of_ne (h : a' ≠ a) (b : β) :
    (es.map fun e => if e.1 == a then (a, b) else e).lookup a' =
      es.lookup a' := by
  induction es with
  | nil => rfl
  | cons e es ih =>
      rw [List.map_cons, List.lookup_cons, List.lookup_cons, ih]
      by_cases he : e.1 = a
      · have hkey : (a' == a) = false := by simpa using h
        have hkey' : (a' == e.1) = false := by rw [he, hkey]
        simp [he, hkey]
      · simp [he]

theorem lookup_map_replace_self (h : a ∈ es.map Prod.fst) (b : β) :
    (es.map fun e => if e.1 == a then (a, b) else e).lookup a = some b := by
  induction es with
  | nil => cases h
  | cons e es ih =>
      rw [List.map_cons, List.lookup_cons]
      by_cases he : e.1 = a
      · simp [he]
      · have hkey : (a == e.1) = false := by simpa using Ne.symm he
        have hmem : a ∈ es.map Prod.fst := by
          rcases List.mem_cons.mp h with heq | hmem
          · exact absurd heq.symm he
          · exact hmem
        simp [he, hkey, ih hmem]

theorem not_mem_of_lookup_eq_none (h : es.lookup a = none) :
    a ∉ es.map Prod.fst := by
  intro hmem
  obtain ⟨e, he, rfl⟩ := List.mem_map.mp hmem
  have hne := List.lookup_eq_none_iff.mp h e he
  simp at hne

end Replace

namespace FileTree

variable {t t' t'' : FileTree} {l l' : Location} {n : Node}
variable {L M : Location → Prop}

/-! ## Putting a node -/

theorem node?_of_ne_nil (h : l ≠ []) (t : FileTree) :
    t.node? l = t.entries.lookup l := by
  rw [node?, if_neg (by simpa using h)]

theorem node?_put_self (h : l ≠ []) (t : FileTree) (n : Node) :
    (t.put l n).node? l = some n := by
  rw [node?_of_ne_nil h, put]
  split
  · next hmem => exact lookup_map_replace_self (by simpa using hmem) n
  · next hmem =>
      have hnone : t.entries.lookup l = none := by
        rw [List.lookup_eq_none_iff]
        intro e he
        have hne : l ≠ e.1 := by
          rintro rfl
          exact hmem (by simpa using ⟨e.2, he⟩)
        simpa using hne
      rw [List.lookup_append, hnone]
      simp

theorem node?_put_of_ne (h : l' ≠ l) (t : FileTree) (n : Node) :
    (t.put l n).node? l' = t.node? l' := by
  by_cases hnil : l' = []
  · subst hnil
    rfl
  rw [node?_of_ne_nil hnil, node?_of_ne_nil hnil, put]
  split
  · exact lookup_map_replace_of_ne h n
  · have hkey : (l' == l) = false := by simpa using h
    rw [List.lookup_append, List.lookup_cons, hkey]
    exact Option.or_none

/-! ## The files of a tree -/

/-- The file at an entry. -/
def fileAt? : Location × Node → Option (Location × List UInt8)
  | (l, .file content) => some (l, content)
  | (_, .dir) => none

theorem files_eq (t : FileTree) : t.files = t.entries.filterMap fileAt? :=
  rfl

theorem fst_of_fileAt? {e : Location × Node} {f : Location × List UInt8}
    (h : fileAt? e = some f) : f.1 = e.1 := by
  obtain ⟨l, n⟩ := e
  cases n with
  | dir => cases h
  | file content =>
      cases h
      rfl

/-- What is chosen of the files does not depend on entries that are not. -/
theorem filter_filterMap_replace {keep : Location → Bool}
    (hkeep : keep l = false) (n : Node) (es : List (Location × Node)) :
    ((es.map fun e => if e.1 == l then (l, n) else e).filterMap
        fileAt?).filter (fun f => keep f.1) =
      (es.filterMap fileAt?).filter fun f => keep f.1 := by
  have hdrop : ∀ (e : Location × Node) (fs : List (Location × List UInt8)),
      e.1 = l → ((fileAt? e).toList ++ fs).filter (fun f => keep f.1) =
        fs.filter fun f => keep f.1 := by
    intro e fs he
    cases hf : fileAt? e with
    | none => rfl
    | some f =>
        have hkeep' : keep f.1 = false := by
          rw [fst_of_fileAt? hf, he, hkeep]
        simp [hkeep']
  have hcons : ∀ (e : Location × Node) (es : List (Location × Node)),
      (e :: es).filterMap fileAt? =
        (fileAt? e).toList ++ es.filterMap fileAt? := by
    intro e es
    rw [List.filterMap_cons]
    cases fileAt? e with
    | none => rfl
    | some f => rfl
  induction es with
  | nil => rfl
  | cons e es ih =>
      rw [List.map_cons, hcons, hcons]
      by_cases he : e.1 = l
      · rw [if_pos (by simpa using he), hdrop _ _ rfl, hdrop e _ he, ih]
      · rw [if_neg (by simpa using he), List.filter_append, ih,
          List.filter_append]

theorem filter_files_put {keep : Location → Bool} (hkeep : keep l = false)
    (t : FileTree) (n : Node) :
    (t.put l n).files.filter (fun f => keep f.1) =
      t.files.filter fun f => keep f.1 := by
  rw [files_eq, files_eq, put]
  split
  · exact filter_filterMap_replace hkeep n t.entries
  · rw [List.filterMap_append, List.filter_append]
    cases n with
    | dir => simp [fileAt?]
    | file content => simp [fileAt?, hkeep]

/-- A new directory is no file. -/
theorem files_put_dir (hl : l ≠ []) (h : t.node? l = none) :
    (t.put l .dir).files = t.files := by
  rw [node?_of_ne_nil hl] at h
  rw [files_eq, files_eq, put,
    if_neg (by simpa using not_mem_of_lookup_eq_none h)]
  simp [fileAt?]

/-! ## Growth -/

/-- A tree has grown, and files were changed at some places at most. -/
structure Grown (L : Location → Prop) (t t' : FileTree) : Prop where
  /-- Directories stay. -/
  dirs : ∀ l, t.node? l = some .dir → t'.node? l = some .dir
  /-- Files stay files. -/
  files : ∀ l c, t.node? l = some (.file c) → ∃ c', t'.node? l = some (.file c')
  /-- Elsewhere the same files are there. -/
  others : ∀ l, ¬ L l → ∀ c,
    t'.node? l = some (.file c) ↔ t.node? l = some (.file c)
  /-- What is chosen elsewhere is chosen in the same order. -/
  chosen : ∀ keep : Location → Bool, (∀ l, keep l = true → ¬ L l) →
    t'.files.filter (fun f => keep f.1) = t.files.filter fun f => keep f.1

theorem Grown.refl (L : Location → Prop) (t : FileTree) : Grown L t t :=
  ⟨fun _ h => h, fun _ c h => ⟨c, h⟩, fun _ _ _ => Iff.rfl, fun _ _ => rfl⟩

theorem Grown.trans (h : Grown L t t') (h' : Grown L t' t'') :
    Grown L t t'' := by
  refine ⟨fun l hl => h'.dirs l (h.dirs l hl), fun l c hl => ?_,
    fun l hl c => (h'.others l hl c).trans (h.others l hl c),
    fun keep hkeep => (h'.chosen keep hkeep).trans (h.chosen keep hkeep)⟩
  obtain ⟨c', hc'⟩ := h.files l c hl
  exact h'.files l c' hc'

theorem Grown.mono (h : Grown L t t') (hLM : ∀ l, L l → M l) :
    Grown M t t' :=
  ⟨h.dirs, h.files, fun l hl => h.others l fun hL => hl (hLM l hL),
    fun keep hkeep => h.chosen keep fun l hl hL => hkeep l hl (hLM l hL)⟩

/-- A new directory changes no file. -/
theorem grown_put_dir (hl : l ≠ []) (h : t.node? l = none) :
    Grown L t (t.put l .dir) := by
  have hkept : ∀ {l' : Location} {n : Node}, t.node? l' = some n →
      (t.put l .dir).node? l' = some n := by
    intro l' n hl'
    have hne : l' ≠ l := by
      rintro rfl
      rw [h] at hl'
      cases hl'
    rw [node?_put_of_ne hne, hl']
  refine ⟨fun l' => hkept, fun l' c hl' => ⟨c, hkept hl'⟩, fun l' _ c => ?_,
    fun keep _ => by rw [files_put_dir hl h]⟩
  by_cases heq : l' = l
  · subst heq
    rw [node?_put_self hl, h]
    simp
  · rw [node?_put_of_ne heq]

/-- A file that is written changes its own place. -/
theorem grown_put_file (h : t.node? l ≠ some .dir) (content : List UInt8) :
    Grown (· = l) t (t.put l (.file content)) := by
  have hl : l ≠ [] := by
    rintro rfl
    exact h rfl
  refine ⟨fun l' hl' => ?_, fun l' c hl' => ?_, fun l' hne c => ?_,
    fun keep hkeep => ?_⟩
  · have hne : l' ≠ l := by
      rintro rfl
      exact h hl'
    rw [node?_put_of_ne hne, hl']
  · by_cases heq : l' = l
    · subst heq
      exact ⟨content, node?_put_self hl t _⟩
    · exact ⟨c, by rw [node?_put_of_ne heq, hl']⟩
  · rw [node?_put_of_ne hne]
  · have hdropped : keep l = false := by
      by_contra hkept
      rw [Bool.not_eq_false] at hkept
      exact hkeep l hkept rfl
    exact filter_files_put hdropped t _

/-! ## What is in files -/

/-- What is in a file. -/
def content? (t : FileTree) (l : Location) : Option (List UInt8) :=
  match t.node? l with
  | some (.file content) => some content
  | _ => none

theorem content?_eq_some_iff {content : List UInt8} :
    t.content? l = some content ↔ t.node? l = some (.file content) := by
  unfold content?
  split
  · next content' hnode => simp [hnode]
  · next hnone =>
      constructor
      · intro h
        cases h
      · intro h
        exact absurd h (hnone content)

theorem isSome_content?_iff :
    (t.content? l).isSome = true ↔ ∃ content, t.node? l = some (.file content) := by
  rw [Option.isSome_iff_exists]
  exact exists_congr fun _ => content?_eq_some_iff

/-- Elsewhere the same is in files. -/
theorem Grown.content?_eq (h : Grown L t t') (hl : ¬ L l) :
    t'.content? l = t.content? l := by
  apply Option.ext
  intro content
  rw [content?_eq_some_iff, content?_eq_some_iff]
  exact h.others l hl content

end FileTree

end TableSketch
