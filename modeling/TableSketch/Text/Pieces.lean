/-!
# Cutting text at separators

`pieces sep cs` cuts `cs` at every character that `sep` selects; the separators
themselves are dropped and empty pieces are kept, so a text with `n` separators
always has `n + 1` pieces. `rejoin` puts pieces back together around one
separator. Each undoes the other: `rejoin_pieces` for every text, `pieces_rejoin` for
pieces that hold no separator.
-/

namespace TableSketch.Text

/-- The pieces of a text between the characters that `sep` selects. -/
def pieces {α : Type} (sep : α → Bool) : List α → List (List α)
  | [] => [[]]
  | c :: cs => if sep c then [] :: pieces sep cs else (pieces sep cs).modifyHead (c :: ·)

/-- The pieces with one separator between neighbours. -/
def rejoin (sep : Char) (ps : List (List Char)) : List Char :=
  [sep].intercalate ps

/-- A text always has a first piece. -/
theorem pieces_ne_nil {α : Type} (sep : α → Bool) (cs : List α) : pieces sep cs ≠ [] := by
  induction cs with
  | nil => simp [pieces]
  | cons c cs ih =>
    unfold pieces
    split
    · simp
    · cases h : pieces sep cs with
      | nil => exact absurd h ih
      | cons p ps => simp

/-- There is one piece more than there are separators. -/
theorem length_pieces {α : Type} (sep : α → Bool) (cs : List α) :
    (pieces sep cs).length = cs.countP sep + 1 := by
  induction cs with
  | nil => rfl
  | cons c cs ih =>
    by_cases h : sep c = true
    · simp [pieces, h, ih]
    · simp [pieces, h, ih]

/-- No piece holds a separator. -/
theorem not_sep_of_mem_pieces {α : Type} {sep : α → Bool} {cs p : List α} (hp : p ∈ pieces sep cs) :
    ∀ c ∈ p, sep c = false := by
  induction cs generalizing p with
  | nil => simp_all [pieces]
  | cons d ds ih =>
    by_cases hd : sep d = true
    · rcases List.mem_cons.1 (by simpa [pieces, hd] using hp) with rfl | hp
      · simp
      · exact ih hp
    · obtain ⟨q, qs, hq⟩ := List.exists_cons_of_ne_nil (pieces_ne_nil sep ds)
      have hp : p = d :: q ∨ p ∈ qs := by simpa [pieces, hd, hq] using hp
      rcases hp with rfl | hp
      · intro c hc
        rcases List.mem_cons.1 hc with rfl | hc
        · simpa using hd
        · exact ih (hq ▸ List.mem_cons_self ..) c hc
      · exact ih (hq ▸ List.mem_cons_of_mem _ hp)

/-- A text without separators is its own piece. -/
theorem pieces_eq_singleton {α : Type} {sep : α → Bool} {cs : List α}
    (h : ∀ c ∈ cs, sep c = false) : pieces sep cs = [cs] := by
  induction cs with
  | nil => rfl
  | cons c cs ih =>
    have hc : sep c = false := h c (List.mem_cons_self ..)
    simp [pieces, hc, ih fun d hd => h d (List.mem_cons_of_mem _ hd)]

/-- A separator cuts a text in two. -/
theorem pieces_append_cons {α : Type} {sep : α → Bool} {c : α} (hc : sep c = true)
    (a b : List α) : pieces sep (a ++ c :: b) = pieces sep a ++ pieces sep b := by
  induction a with
  | nil => simp [pieces, hc]
  | cons d a ih =>
    by_cases hd : sep d = true
    · simp [pieces, hd, ih]
    · obtain ⟨q, qs, hq⟩ := List.exists_cons_of_ne_nil (pieces_ne_nil sep a)
      simp [pieces, hd, ih, hq]

theorem rejoin_singleton (sep : Char) (p : List Char) : rejoin sep [p] = p := by
  simp [rejoin]

theorem rejoin_cons_cons (sep : Char) (p q : List Char) (ps : List (List Char)) :
    rejoin sep (p :: q :: ps) = p ++ sep :: rejoin sep (q :: ps) := by
  simp [rejoin, List.intercalate]

/-- Putting the pieces back together gives the text that was cut. -/
theorem rejoin_pieces (sep : Char) (cs : List Char) : rejoin sep (pieces (· == sep) cs) = cs := by
  induction cs with
  | nil => rfl
  | cons c cs ih =>
    obtain ⟨q, qs, hq⟩ := List.exists_cons_of_ne_nil (pieces_ne_nil (· == sep) cs)
    rw [hq] at ih
    by_cases hc : c = sep
    · simp [pieces, hc, hq, rejoin_cons_cons, ih]
    · cases qs with
      | nil => simpa [pieces, hc, hq, rejoin_singleton] using ih
      | cons r rs =>
        rw [rejoin_cons_cons] at ih
        simp [pieces, hc, hq, rejoin_cons_cons, ih]

/-- Cutting gives back the pieces that were put together, if none of them holds a separator. -/
theorem pieces_rejoin {sep : Char} {ps : List (List Char)} (hne : ps ≠ [])
    (h : ∀ p ∈ ps, sep ∉ p) : pieces (· == sep) (rejoin sep ps) = ps := by
  induction ps with
  | nil => exact absurd rfl hne
  | cons p ps ih =>
    have hp : ∀ c ∈ p, (c == sep) = false := fun c hc => by
      have : c ≠ sep := fun e => h p (List.mem_cons_self ..) (e ▸ hc)
      simpa using this
    cases ps with
    | nil => rw [rejoin_singleton, pieces_eq_singleton hp]
    | cons q qs =>
      rw [rejoin_cons_cons, pieces_append_cons (by simp), pieces_eq_singleton hp,
        ih (by simp) fun r hr => h r (List.mem_cons_of_mem _ hr)]
      rfl

end TableSketch.Text
