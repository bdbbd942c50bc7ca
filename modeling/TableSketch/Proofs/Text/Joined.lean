import Mathlib.Data.List.Forall2
import TableSketch.Text.Pieces

/-!
# Texts that were put together

Writers put texts together in two ways.  Parts that each end with a mark of
their own, which they do not hold otherwise, stand behind one another; and
parts that hold no line feed are joined by a separator that ends with one.  In
both cases the whole says what the parts were.

For the first way, a text is cut *behind* every mark (`closedPieces`), so that
the mark stays with what it closes.  For the second one, the first line feed
tells where the first part ends, whatever the separator begins with: a part
may well end with a comma although the separator is a comma and a line feed.

Everything here is about lists of any kind.  The parts are statements made of
characters as well as the sections of a page made of lines.

## Main results

* `closedPieces_flatten`, `flatten_inj` — closed parts are told apart.
* `intercalate_inj` — joined parts are told apart.
* `mem_pieces_intercalate` — the pieces of joined parts.
-/

namespace TableSketch.Text

/-! ## Parts that close themselves -/

section Closed

variable {α : Type}

/-- A part that ends with a mark and does not hold it otherwise. -/
def IsClosed (mark : α) (part : List α) : Prop :=
  ∃ front, part = front ++ [mark] ∧ mark ∉ front

/-- The pieces of a text, cut behind every mark.  What stands behind the last
mark is closed by none and left out. -/
def closedPieces [BEq α] (mark : α) (text : List α) : List (List α) :=
  (pieces (· == mark) text).dropLast.map (· ++ [mark])

/-- There are as many pieces as marks. -/
theorem length_closedPieces [BEq α] (mark : α) (text : List α) :
    (closedPieces mark text).length = text.count mark := by
  simp [closedPieces, length_pieces, List.count]

variable [BEq α] [LawfulBEq α]

theorem beq_eq_false_of_not_mem {mark : α} {part : List α} (h : mark ∉ part) :
    ∀ c ∈ part, (c == mark) = false := by
  intro c hc
  exact beq_eq_false_iff_ne.mpr fun e => h (e ▸ hc)

theorem closedPieces_eq_nil {mark : α} {text : List α} (h : mark ∉ text) :
    closedPieces mark text = [] := by
  rw [closedPieces, pieces_eq_singleton (beq_eq_false_of_not_mem h)]
  rfl

/-- The piece that the first mark closes, and the others. -/
theorem closedPieces_append {mark : α} {part : List α} (h : IsClosed mark part)
    (text : List α) :
    closedPieces mark (part ++ text) = part :: closedPieces mark text := by
  obtain ⟨front, rfl, hfront⟩ := h
  rw [closedPieces, List.append_assoc, List.singleton_append,
    pieces_append_cons (by simp),
    pieces_eq_singleton (beq_eq_false_of_not_mem hfront),
    List.singleton_append, List.dropLast_cons_of_ne_nil (pieces_ne_nil _ _)]
  rfl

/-- **Closed parts are told apart**: they are the pieces of the whole. -/
theorem closedPieces_flatten {mark : α} {parts : List (List α)}
    (h : ∀ p ∈ parts, IsClosed mark p) :
    closedPieces mark parts.flatten = parts := by
  induction parts with
  | nil => exact closedPieces_eq_nil List.not_mem_nil
  | cons p parts ih =>
      rw [List.flatten_cons, closedPieces_append (h p (by simp)),
        ih fun q hq => h q (by simp [hq])]

theorem flatten_inj {mark : α} {parts parts' : List (List α)}
    (h : ∀ p ∈ parts, IsClosed mark p) (h' : ∀ p ∈ parts', IsClosed mark p)
    (heq : parts.flatten = parts'.flatten) : parts = parts' := by
  rw [← closedPieces_flatten h, heq, closedPieces_flatten h']

/-- The first mark of a text is in one place only. -/
theorem append_cons_inj {mark : α} {a b r s : List α} (ha : mark ∉ a)
    (hb : mark ∉ b) (h : a ++ mark :: r = b ++ mark :: s) : a = b ∧ r = s := by
  have hmark : (a ++ [mark]) ++ r = (b ++ [mark]) ++ s := by simpa using h
  have hpieces := congrArg (closedPieces mark) hmark
  rw [closedPieces_append ⟨a, rfl, ha⟩, closedPieces_append ⟨b, rfl, hb⟩]
    at hpieces
  obtain rfl : a = b := List.append_cancel_right (List.cons.inj hpieces).1
  exact ⟨rfl, List.append_cancel_left hmark⟩

end Closed

/-! ## Parts with separators between them -/

section Joined

variable {α : Type}

/-- Joined parts, with the separator given to the later ones. -/
theorem intercalate_cons_eq_flatten (sep p : List α) (ps : List (List α)) :
    sep.intercalate (p :: ps) = (p :: ps.map (sep ++ ·)).flatten := by
  induction ps generalizing p with
  | nil => simp
  | cons q ps ih =>
      rw [List.intercalate_cons_cons, ih]
      simp

/-- The separator also stands between two runs of parts. -/
theorem intercalate_append (sep : List α) {ps qs : List (List α)}
    (hps : ps ≠ []) (hqs : qs ≠ []) :
    sep.intercalate (ps ++ qs) =
      sep.intercalate ps ++ sep ++ sep.intercalate qs := by
  induction ps with
  | nil => exact absurd rfl hps
  | cons p ps ih =>
      cases ps with
      | nil =>
          rw [List.singleton_append, List.intercalate_cons_of_ne_nil hqs,
            List.intercalate_singleton]
      | cons p' ps =>
          rw [List.cons_append, List.intercalate_cons_of_ne_nil (by simp),
            List.intercalate_cons_of_ne_nil (by simp), ih (by simp)]
          simp only [List.append_assoc]

/-- Parts that were themselves joined with the same separator. -/
theorem intercalate_flatMap {β : Type} (sep : List α) {f : β → List (List α)}
    (hf : ∀ b, f b ≠ []) (bs : List β) :
    sep.intercalate (bs.flatMap f) =
      sep.intercalate (bs.map fun b => sep.intercalate (f b)) := by
  induction bs with
  | nil => rfl
  | cons b bs ih =>
      cases bs with
      | nil => simp
      | cons b' bs =>
          have hrest : (b' :: bs).flatMap f ≠ [] := by simp [hf b']
          rw [List.flatMap_cons, intercalate_append sep (hf b) hrest, ih]
          exact List.intercalate_cons_cons.symm

/-- What is joined is made of the separator and the parts. -/
theorem mem_intercalate {sep : List α} {ps : List (List α)} {x : α}
    (h : x ∈ sep.intercalate ps) : x ∈ sep ∨ ∃ p ∈ ps, x ∈ p := by
  cases ps with
  | nil => simp at h
  | cons p ps =>
      rw [intercalate_cons_eq_flatten, List.flatten_cons,
        List.mem_append] at h
      rcases h with h | h
      · exact Or.inr ⟨p, by simp, h⟩
      · obtain ⟨r, hr, h⟩ := List.mem_flatten.mp h
        obtain ⟨q, hq, rfl⟩ := List.mem_map.mp hr
        exact (List.mem_append.mp h).imp_right
          fun h => ⟨q, List.mem_cons_of_mem p hq, h⟩

/-- The first part, and what stands behind the mark of its separator. -/
theorem intercalate_cons_cons_mark (mark : α) (sep p q : List α)
    (ps : List (List α)) :
    (sep ++ [mark]).intercalate (p :: q :: ps) =
      (p ++ sep) ++ mark :: (sep ++ [mark]).intercalate (q :: ps) := by
  rw [List.intercalate_cons_cons]
  simp

/-- **Joined parts are told apart** by a mark at the end of the separator that
neither the parts nor the rest of the separator hold. -/
theorem intercalate_inj [BEq α] [LawfulBEq α] (mark : α) {sep : List α}
    (hsep : mark ∉ sep) {ps qs : List (List α)} (hps : ps ≠ [])
    (hqs : qs ≠ []) (hp : ∀ p ∈ ps, mark ∉ p) (hq : ∀ q ∈ qs, mark ∉ q)
    (h : (sep ++ [mark]).intercalate ps = (sep ++ [mark]).intercalate qs) :
    ps = qs := by
  induction ps generalizing qs with
  | nil => exact absurd rfl hps
  | cons p ps ih =>
      obtain ⟨q, qs, rfl⟩ := List.exists_cons_of_ne_nil hqs
      have hp' : mark ∉ p := hp p (by simp)
      have hq' : mark ∉ q := hq q (by simp)
      rcases ps with _ | ⟨p', ps⟩ <;> rcases qs with _ | ⟨q', qs⟩
      · simpa using h
      · -- A single part does not hold the mark of the separator.
        rw [List.intercalate_singleton, intercalate_cons_cons_mark] at h
        have hmark : mark ∈ p := by
          rw [h]
          simp
        exact absurd hmark hp'
      · rw [List.intercalate_singleton, intercalate_cons_cons_mark] at h
        have hmark : mark ∈ q := by
          rw [← h]
          simp
        exact absurd hmark hq'
      · have hpsep : mark ∉ p ++ sep := by simp [hp', hsep]
        have hqsep : mark ∉ q ++ sep := by simp [hq', hsep]
        rw [intercalate_cons_cons_mark, intercalate_cons_cons_mark] at h
        obtain ⟨hhead, htail⟩ := append_cons_inj hpsep hqsep h
        rw [List.append_cancel_right hhead,
          ih (by simp) (by simp) (fun r hr => hp r (by simp [hr]))
            (fun r hr => hq r (by simp [hr])) htail]

/-- **The pieces of joined parts** are the parts, all but the last one with the
rest of the separator behind them.  No parts at all make an empty piece. -/
theorem mem_pieces_intercalate [BEq α] [LawfulBEq α] (mark : α) {sep : List α}
    (hsep : mark ∉ sep) {ps : List (List α)} (hps : ∀ p ∈ ps, mark ∉ p)
    {q : List α}
    (hq : q ∈ pieces (· == mark) ((sep ++ [mark]).intercalate ps)) :
    (ps = [] ∧ q = []) ∨ ∃ p ∈ ps, q = p ∨ q = p ++ sep := by
  induction ps with
  | nil => exact Or.inl ⟨rfl, List.mem_singleton.mp hq⟩
  | cons p ps ih =>
      have hp : mark ∉ p := hps p (by simp)
      refine Or.inr ?_
      cases ps with
      | nil =>
          rw [List.intercalate_singleton,
            pieces_eq_singleton (beq_eq_false_of_not_mem hp)] at hq
          exact ⟨p, by simp, Or.inl (List.mem_singleton.mp hq)⟩
      | cons p' ps =>
          have hpsep : mark ∉ p ++ sep := by simp [hp, hsep]
          rw [intercalate_cons_cons_mark, pieces_append_cons (by simp),
            pieces_eq_singleton (beq_eq_false_of_not_mem hpsep),
            List.singleton_append, List.mem_cons] at hq
          rcases hq with rfl | hq
          · exact ⟨p, by simp, Or.inr rfl⟩
          · rcases ih (fun r hr => hps r (by simp [hr])) hq with
              ⟨hnil, -⟩ | ⟨r, hr, hqr⟩
            · cases hnil
            · exact ⟨r, List.mem_cons_of_mem p hr, hqr⟩

/-- Nothing is joined of parts that are not empty only if there are none. -/
theorem eq_nil_of_intercalate_eq_nil {sep : List α} {ps : List (List α)}
    (hps : [] ∉ ps) (h : sep.intercalate ps = []) : ps = [] := by
  cases ps with
  | nil => rfl
  | cons p ps =>
      rw [intercalate_cons_eq_flatten, List.flatten_cons] at h
      obtain rfl : p = [] := (List.append_eq_nil_iff.mp h).1
      exact absurd List.mem_cons_self hps

/-- Parts that are not empty are told apart, also from no parts at all. -/
theorem intercalate_inj_of_ne_nil [BEq α] [LawfulBEq α] (mark : α)
    {sep : List α} (hsep : mark ∉ sep) {ps qs : List (List α)}
    (hps : [] ∉ ps) (hqs : [] ∉ qs) (hp : ∀ p ∈ ps, mark ∉ p)
    (hq : ∀ q ∈ qs, mark ∉ q)
    (h : (sep ++ [mark]).intercalate ps = (sep ++ [mark]).intercalate qs) :
    ps = qs := by
  by_cases hpnil : ps = []
  · subst hpnil
    rw [List.intercalate_nil] at h
    exact (eq_nil_of_intercalate_eq_nil hqs h.symm).symm
  · by_cases hqnil : qs = []
    · subst hqnil
      rw [List.intercalate_nil] at h
      exact eq_nil_of_intercalate_eq_nil hps h
    · exact intercalate_inj mark hsep hpnil hqnil hp hq h

end Joined

/-! ## Lists of the same texts -/

/-- Lists with the same images agree element by element on whatever the image
of an element says. -/
theorem forall₂_of_map_eq {α β γ : Type} {R : α → β → Prop} {f : α → γ}
    {g : β → γ} {as : List α} {bs : List β}
    (hR : ∀ a ∈ as, ∀ b ∈ bs, f a = g b → R a b) (h : as.map f = bs.map g) :
    List.Forall₂ R as bs := by
  induction as generalizing bs with
  | nil =>
      cases bs with
      | nil => exact .nil
      | cons b bs => simp at h
  | cons a as ih =>
      cases bs with
      | nil => simp at h
      | cons b bs =>
          obtain ⟨hhead, htail⟩ := List.cons.inj h
          refine .cons (hR a (by simp) b (by simp) hhead) (ih ?_ htail)
          exact fun c hc d hd => hR c (by simp [hc]) d (by simp [hd])

/-- Lists that agree element by element have the same images, if elements that
agree do. -/
theorem map_eq_of_forall₂ {α β γ : Type} {R : α → β → Prop} {f : α → γ}
    {g : β → γ} (hR : ∀ a b, R a b → f a = g b) {as : List α} {bs : List β}
    (h : List.Forall₂ R as bs) : as.map f = bs.map g := by
  induction h with
  | nil => rfl
  | cons hab _ ih => rw [List.map_cons, List.map_cons, hR _ _ hab, ih]

end TableSketch.Text
