import TableSketch.Text.Blank
import TableSketch.Text.Pieces

/-!
# Blanks around the pieces of a text

Trimming takes the blanks away at the ends of a text, and cutting makes new
ends.  So what is trimmed after cutting does not change when blanks are put at
an end of the text before (`map_trim_pieces_append`, and
`map_trim_pieces_blank_append` for the front), or when the text is trimmed as
a whole (`map_trim_pieces_trim`).

A text is `tidy` if all of its pieces are trimmed.  It is then trimmed as a
whole as well, because a separator is no blank (`trim_tidy`).

## Main results

* `pieces_append` — the pieces of two texts behind each other: the last of the
  one and the first of the other grow together, the rest stays.
* `map_trim_pieces_append`, `map_trim_pieces_trim` — blanks at the ends of a
  text do not show in its trimmed pieces.
* `pieces_tidy` — a tidied text falls into the trimmed pieces.
-/

namespace TableSketch.Text

/-! ## Trimming -/

/-- A run of blanks. -/
def AllBlank (w : List Char) : Prop := ∀ c ∈ w, isBlank c = true

theorem trim_blank_append {w : List Char} (hw : AllBlank w) (cs : List Char) :
    trim (w ++ cs) = trim cs := by
  rw [trim, trimLeft, List.dropWhile_append_of_pos hw, ← trimLeft, ← trim]

theorem trimRight_append_blank {w : List Char} (hw : AllBlank w)
    (cs : List Char) : trimRight (cs ++ w) = trimRight cs := by
  have hw' : ∀ c ∈ w.reverse, isBlank c = true := by simpa [AllBlank] using hw
  rw [trimRight, List.reverse_append, List.dropWhile_append_of_pos hw',
    ← trimRight]

theorem trim_append_blank {w : List Char} (hw : AllBlank w) (cs : List Char) :
    trim (cs ++ w) = trim cs := by
  rw [trim, trim, trimLeft, List.dropWhile_append, ← trimLeft]
  split
  · next hempty =>
      have hcs : trimLeft cs = [] := List.isEmpty_iff.mp hempty
      have hnil : w.dropWhile isBlank = [] := by
        rw [← List.append_nil w, List.dropWhile_append_of_pos hw]
        rfl
      rw [hcs, hnil]
  · exact trimRight_append_blank hw _

/-- No blanks stand in front of a trimmed text. -/
theorem eq_nil_of_trim_append {w cs : List Char} (hw : AllBlank w)
    (h : trim (w ++ cs) = w ++ cs) : w = [] := by
  cases w with
  | nil => rfl
  | cons c w =>
      have hhead : (trim (c :: w ++ cs)).head? = some c := by
        rw [h]
        rfl
      have hblank := hw c List.mem_cons_self
      rw [not_isBlank_of_head?_trim hhead] at hblank
      cases hblank

/-- Nor at its end. -/
theorem eq_nil_of_append_trim {w cs : List Char} (hw : AllBlank w)
    (h : trim (cs ++ w) = cs ++ w) : w = [] := by
  cases hlast : w.getLast? with
  | none => exact List.getLast?_eq_none_iff.mp hlast
  | some c =>
      have hend : (trim (cs ++ w)).getLast? = some c := by
        rw [h, List.getLast?_append, hlast, Option.some_or]
      have hblank := hw c (List.mem_of_getLast? hlast)
      rw [not_isBlank_of_getLast?_trim hend] at hblank
      cases hblank

/-- A text is its trimmed part between two runs of blanks. -/
theorem exists_eq_trim_append (cs : List Char) :
    ∃ w w', AllBlank w ∧ AllBlank w' ∧ cs = w ++ (trim cs ++ w') := by
  have hrun : ∀ ds : List Char, AllBlank (ds.takeWhile isBlank) := fun ds =>
    List.all_eq_true.mp List.all_takeWhile
  refine ⟨cs.takeWhile isBlank,
    ((trimLeft cs).reverse.takeWhile isBlank).reverse, hrun cs, ?_, ?_⟩
  · simpa [AllBlank] using hrun (trimLeft cs).reverse
  · have hright : trimLeft cs = trim cs ++
        ((trimLeft cs).reverse.takeWhile isBlank).reverse := by
      rw [trim, trimRight, ← List.reverse_append,
        List.takeWhile_append_dropWhile, List.reverse_reverse]
    rw [← hright, trimLeft, List.takeWhile_append_dropWhile]

/-- Around a character that is no blank, two trimmed texts make a trimmed
one. -/
theorem trim_append_cons {a b : List Char} {c : Char} (ha : trim a = a)
    (hc : isBlank c = false) (hb : trim b = b) :
    trim (a ++ c :: b) = a ++ c :: b := by
  refine trim_eq_self (fun d hd => ?_) (fun d hd => ?_)
  · rw [List.head?_append] at hd
    cases hhead : a.head? with
    | none =>
        obtain rfl : c = d := by simpa [hhead] using hd
        exact hc
    | some e =>
        obtain rfl : e = d := by simpa [hhead] using hd
        rw [← ha] at hhead
        exact not_isBlank_of_head?_trim hhead
  · rw [List.getLast?_append, List.getLast?_cons] at hd
    cases hlast : b.getLast? with
    | none =>
        obtain rfl : c = d := by simpa [hlast] using hd
        exact hc
    | some e =>
        obtain rfl : e = d := by simpa [hlast] using hd
        rw [← hb] at hlast
        exact not_isBlank_of_getLast?_trim hlast

/-- Not all of a trimmed text is blank. -/
theorem exists_not_isBlank_of_trim_eq_self {cs : List Char}
    (h : trim cs = cs) (hne : cs ≠ []) : ∃ c ∈ cs, isBlank c = false := by
  obtain ⟨c, ds, rfl⟩ := List.exists_cons_of_ne_nil hne
  have hhead : (trim (c :: ds)).head? = some c := by
    rw [h]
    rfl
  exact ⟨c, List.mem_cons_self, not_isBlank_of_head?_trim hhead⟩

/-- What is not blank is not trimmed away. -/
theorem mem_trim_of_mem {cs : List Char} {c : Char} (hc : c ∈ cs)
    (hblank : isBlank c = false) : c ∈ trim cs := by
  obtain ⟨w, w', hw, hw', hcs⟩ := exists_eq_trim_append cs
  have hnot : ∀ {v : List Char}, AllBlank v → c ∉ v := by
    intro v hv hmem
    rw [hv c hmem] at hblank
    cases hblank
  rw [hcs, List.mem_append, List.mem_append] at hc
  rcases hc with hc | hc | hc
  · exact absurd hc (hnot hw)
  · exact hc
  · exact absurd hc (hnot hw')

/-- Nor is anything between two characters that are not blank. -/
theorem mem_trim_between {a b : List Char} (c : Char)
    (ha : ∃ x ∈ a, isBlank x = false) (hb : ∃ y ∈ b, isBlank y = false) :
    c ∈ trim (a ++ c :: b) := by
  have hnot : ∀ {v d : List Char}, AllBlank v →
      (∃ x ∈ d, isBlank x = false) → ¬ d ⊆ v := by
    rintro v d hv ⟨x, hx, hblank⟩ hsub
    rw [hv x (hsub hx)] at hblank
    cases hblank
  obtain ⟨w, w', hw, hw', hcs⟩ := exists_eq_trim_append (a ++ c :: b)
  rcases List.append_eq_append_iff.mp hcs with ⟨d, hd, -⟩ | ⟨d, -, hd⟩
  · exact absurd (hd ▸ List.subset_append_left a d) (hnot hw ha)
  · have hd' : trim (a ++ c :: b) ++ w' = (d ++ [c]) ++ b := by
      rw [hd, List.append_assoc]
      rfl
    rcases List.append_eq_append_iff.mp hd' with ⟨e, -, he⟩ | ⟨e, he, -⟩
    · exact absurd (he ▸ List.subset_append_right e b) (hnot hw' hb)
    · rw [he]
      simp

/-! ## Cutting -/

section Pieces

variable {sep : Char → Bool}

/-- A piece holds characters of the text only. -/
theorem mem_of_mem_pieces {cs p : List Char} {c : Char}
    (hp : p ∈ pieces sep cs) (hc : c ∈ p) : c ∈ cs := by
  induction cs generalizing p with
  | nil =>
      obtain rfl : p = [] := by simpa [pieces] using hp
      cases hc
  | cons d ds ih =>
      by_cases hd : sep d = true
      · rcases List.mem_cons.mp (by simpa [pieces, hd] using hp) with rfl | hp
        · cases hc
        · exact List.mem_cons_of_mem d (ih hp hc)
      · obtain ⟨q, qs, hq⟩ := List.exists_cons_of_ne_nil (pieces_ne_nil sep ds)
        have hp' : p = d :: q ∨ p ∈ qs := by simpa [pieces, hd, hq] using hp
        rcases hp' with rfl | hp'
        · rcases List.mem_cons.mp hc with rfl | hc
          · exact List.mem_cons_self
          · exact List.mem_cons_of_mem d (ih (by simp [hq]) hc)
        · exact List.mem_cons_of_mem d (ih (by simp [hq, hp']) hc)

/-- What stands behind a text goes on with its last piece. -/
theorem pieces_append (sep : Char → Bool) (a : List Char) :
    ∃ front last, pieces sep a = front ++ [last] ∧
      ∀ b, pieces sep (a ++ b) =
        front ++ (pieces sep b).modifyHead (last ++ ·) := by
  induction a with
  | nil =>
      refine ⟨[], [], rfl, fun b => ?_⟩
      obtain ⟨q, qs, hq⟩ := List.exists_cons_of_ne_nil (pieces_ne_nil sep b)
      simp [hq]
  | cons c a ih =>
      obtain ⟨front, last, ha, happend⟩ := ih
      by_cases hc : sep c = true
      · exact ⟨[] :: front, last, by simp [pieces, hc, ha],
          fun b => by simp [pieces, hc, happend b]⟩
      · cases front with
        | nil =>
            refine ⟨[], c :: last, by simp [pieces, hc, ha], fun b => ?_⟩
            obtain ⟨q, qs, hq⟩ :=
              List.exists_cons_of_ne_nil (pieces_ne_nil sep b)
            simp [pieces, hc, happend b, hq]
        | cons p front =>
            exact ⟨(c :: p) :: front, last, by simp [pieces, hc, ha],
              fun b => by simp [pieces, hc, happend b]⟩

/-- A text without separators goes on with its first piece. -/
theorem pieces_append_of_not_sep {w : List Char} (hw : ∀ c ∈ w, sep c = false)
    (b : List Char) :
    pieces sep (w ++ b) = (pieces sep b).modifyHead (w ++ ·) := by
  obtain ⟨front, last, hlast, happend⟩ := pieces_append sep w
  rw [pieces_eq_singleton hw] at hlast
  obtain ⟨rfl, rfl⟩ : front = [] ∧ last = w := by
    cases front with
    | nil => simpa [eq_comm] using hlast
    | cons p front => simp at hlast
  exact happend b

variable {w : List Char}

/-- Blanks at the end of a text do not show in its trimmed pieces. -/
theorem map_trim_pieces_append (hw : AllBlank w) (hsep : ∀ c ∈ w, sep c = false)
    (a : List Char) :
    (pieces sep (a ++ w)).map trim = (pieces sep a).map trim := by
  obtain ⟨front, last, hlast, happend⟩ := pieces_append sep a
  rw [happend w, pieces_eq_singleton hsep, hlast]
  simp [trim_append_blank hw]

/-- Nor do blanks in front of it. -/
theorem map_trim_pieces_blank_append (hw : AllBlank w)
    (hsep : ∀ c ∈ w, sep c = false) (b : List Char) :
    (pieces sep (w ++ b)).map trim = (pieces sep b).map trim := by
  obtain ⟨q, qs, hq⟩ := List.exists_cons_of_ne_nil (pieces_ne_nil sep b)
  rw [pieces_append_of_not_sep hsep, hq]
  simp [trim_blank_append hw]

/-- Where blanks are no separators, trimming may as well come first. -/
theorem map_trim_pieces_trim (hsep : ∀ c, isBlank c = true → sep c = false)
    (cs : List Char) :
    (pieces sep (trim cs)).map trim = (pieces sep cs).map trim := by
  obtain ⟨w, w', hw, hw', hcs⟩ := exists_eq_trim_append cs
  have hrun : ∀ {v : List Char}, AllBlank v → ∀ c ∈ v, sep c = false :=
    fun hv c hc => hsep c (hv c hc)
  calc (pieces sep (trim cs)).map trim
      = (pieces sep (trim cs ++ w')).map trim :=
        (map_trim_pieces_append hw' (hrun hw') _).symm
    _ = (pieces sep (w ++ (trim cs ++ w'))).map trim :=
        (map_trim_pieces_blank_append hw (hrun hw) _).symm
    _ = (pieces sep cs).map trim := by rw [← hcs]

end Pieces

/-! ## Tidy texts -/

section Tidy

variable {sep : Char}

/-- The text with each of its pieces trimmed. -/
def tidy (sep : Char) (cs : List Char) : List Char :=
  rejoin sep ((pieces (· == sep) cs).map trim)

/-- What is put together from pieces is the pieces and the separator. -/
theorem mem_rejoin {ps : List (List Char)} {c : Char}
    (hc : c ∈ rejoin sep ps) : c = sep ∨ ∃ p ∈ ps, c ∈ p := by
  induction ps with
  | nil => cases hc
  | cons p ps ih =>
      cases ps with
      | nil => exact Or.inr ⟨p, by simp, by simpa [rejoin_singleton] using hc⟩
      | cons q qs =>
          rw [rejoin_cons_cons, List.mem_append, List.mem_cons] at hc
          rcases hc with hc | rfl | hc
          · exact Or.inr ⟨p, by simp, hc⟩
          · exact Or.inl rfl
          · refine (ih hc).imp_right ?_
            rintro ⟨r, hr, hcr⟩
            exact ⟨r, List.mem_cons_of_mem p hr, hcr⟩

/-- Trimmed pieces make a trimmed text. -/
theorem trim_rejoin (hsep : isBlank sep = false) {ps : List (List Char)}
    (h : ∀ p ∈ ps, trim p = p) : trim (rejoin sep ps) = rejoin sep ps := by
  induction ps with
  | nil => rfl
  | cons p ps ih =>
      have hp : trim p = p := h p (by simp)
      cases ps with
      | nil => rwa [rejoin_singleton]
      | cons q qs =>
          rw [rejoin_cons_cons]
          exact trim_append_cons hp hsep
            (ih fun r hr => h r (List.mem_cons_of_mem p hr))

/-- A tidied text is trimmed as a whole. -/
theorem trim_tidy (hsep : isBlank sep = false) (cs : List Char) :
    trim (tidy sep cs) = tidy sep cs :=
  trim_rejoin hsep (by simp)

/-- A tidied text falls into the trimmed pieces. -/
theorem pieces_tidy (cs : List Char) :
    pieces (· == sep) (tidy sep cs) = (pieces (· == sep) cs).map trim := by
  refine pieces_rejoin (by simpa using pieces_ne_nil _ cs) ?_
  intro p hp hmem
  obtain ⟨q, hq, rfl⟩ := List.mem_map.mp hp
  simpa using not_sep_of_mem_pieces hq sep (mem_of_mem_trim hmem)

/-- A text whose pieces are trimmed is tidy already. -/
theorem tidy_eq_self {cs : List Char}
    (h : ∀ p ∈ pieces (· == sep) cs, trim p = p) : tidy sep cs = cs := by
  rw [tidy, List.map_congr_left h, List.map_id', rejoin_pieces]

/-- Blanks in front of a text are tidied away. -/
theorem tidy_blank_append {w : List Char} (hw : AllBlank w)
    (hsep : isBlank sep = false) (cs : List Char) :
    tidy sep (w ++ cs) = tidy sep cs := by
  have hnot : ∀ c ∈ w, (c == sep) = false := by
    intro c hc
    refine beq_eq_false_iff_ne.mpr fun e => ?_
    rw [← e, hw c hc] at hsep
    cases hsep
  rw [tidy, map_trim_pieces_blank_append hw hnot, tidy]

/-- What happens to the pieces of a text one by one neither adds nor drops a
separator. -/
theorem count_eq_of_pieces_eq_map {f : List Char → List Char}
    {cs ds : List Char}
    (h : pieces (· == sep) cs = (pieces (· == sep) ds).map f) :
    cs.count sep = ds.count sep := by
  have hlength := congrArg List.length h
  rw [List.length_map, length_pieces, length_pieces] at hlength
  exact Nat.succ.inj hlength

/-- Tidying drops no separator. -/
theorem not_mem_of_not_mem_tidy {cs : List Char}
    (h : sep ∉ tidy sep cs) : sep ∉ cs := by
  rwa [← List.count_eq_zero, count_eq_of_pieces_eq_map (pieces_tidy cs),
    List.count_eq_zero] at h

/-- A text without separators is tidied by trimming. -/
theorem tidy_eq_trim {cs : List Char} (h : sep ∉ cs) :
    tidy sep cs = trim cs := by
  have hpieces : pieces (· == sep) cs = [cs] :=
    pieces_eq_singleton fun c hc => by
      simpa using fun e : c = sep => h (e ▸ hc)
  rw [tidy, hpieces]
  exact rejoin_singleton sep (trim cs)

/-- Tidying puts no character into a text but the separator. -/
theorem mem_of_mem_tidy {cs : List Char} {c : Char} (hc : c ∈ tidy sep cs) :
    c = sep ∨ c ∈ cs := by
  refine (mem_rejoin hc).imp_right ?_
  rintro ⟨p, hp, hcp⟩
  obtain ⟨q, hq, rfl⟩ := List.mem_map.mp hp
  exact mem_of_mem_pieces hq (mem_of_mem_trim hcp)

end Tidy

end TableSketch.Text
