import Mathlib.Data.List.Basic
import TableSketch.Console.Markup

/-!
# Plain text in a style

A text without brackets and backslashes has no markup, and it is read as one piece,
whatever stands behind it (`Console.piecesFrom_append`).  So a text that stands in a
style falls into the pieces that it was made of (`Console.markupPieces_colored`), and
since the style is closed again and can be drawn, nothing is wrong with it.

## Main results

* `Console.IsPlain` — a text without markup.
* `Console.markupPieces_colored` — the pieces of a text with a coloured part.
* `Console.badSpans_colored` — all of it can be drawn.
-/

namespace TableSketch.Console

variable {w before inside after : List Char}

/-- A text in which no markup can begin. -/
def IsPlain (w : List Char) : Prop :=
  ∀ c ∈ w, c ≠ '[' ∧ c ≠ '\\'

/-! ## Pieces -/

/-- Plain text is read one character after the other. -/
theorem piecesFrom_append (hw : IsPlain w) (pending : List Char) (fuel : Nat)
    (rest : List Char) :
    piecesFrom pending (w.length + fuel) (w ++ rest) =
      piecesFrom (w.reverse ++ pending) fuel rest := by
  induction w generalizing pending with
  | nil =>
      rw [List.length_nil, Nat.zero_add]
      rfl
  | cons c cs ih =>
      obtain ⟨hopen, hslash⟩ := hw c List.mem_cons_self
      have hslashes : ((c :: (cs ++ rest)).takeWhile (· == '\\')).length = 0 := by
        rw [List.takeWhile_cons, if_neg (by simpa using hslash)]
        rfl
      have htag : readTag? (c :: (cs ++ rest)) = none := by
        unfold readTag?
        split
        · next heq => exact absurd (List.cons.inj heq).1 hopen
        · rfl
      rw [List.cons_append, List.length_cons, Nat.add_right_comm, piecesFrom]
      simp only [hslashes, List.drop_zero, htag]
      rw [ih fun d hd => hw d (List.mem_cons_of_mem _ hd), List.reverse_cons,
        List.append_assoc]
      rfl

/-- Plain text at the end is the last piece. -/
theorem piecesFrom_of_isPlain (hw : IsPlain w) {fuel : Nat}
    (hfuel : w.length ≤ fuel) : piecesFrom [] fuel w = [.plain w] := by
  have h := piecesFrom_append hw [] (fuel - w.length) []
  rw [Nat.add_sub_cancel' hfuel, List.append_nil, List.append_nil] at h
  rw [h, piecesFrom, List.reverse_reverse]

/-- A tag takes one step, however long it is. -/
theorem piecesFrom_tag (c : Char) (tag : List Char) (hc : isTagStart c = true)
    (htag : tag.all (fun d => d != ']' && d != '[') = true) (pending : List Char)
    (fuel : Nat) (rest : List Char) :
    piecesFrom pending (fuel + 1) ('[' :: c :: tag ++ ']' :: rest) =
      .plain pending.reverse :: .plain [] :: .tag (c :: tag) ::
        piecesFrom [] fuel rest := by
  have hinside : (tag ++ ']' :: rest).takeWhile
      (fun d => d != ']' && d != '[') = tag := by
    rw [List.takeWhile_append_of_pos (List.all_eq_true.mp htag)]
    simp
  have hread : readTag? ('[' :: c :: (tag ++ ']' :: rest)) = some (c :: tag, rest) := by
    unfold readTag?
    simp [hc, hinside]
  have hslashes : (('[' :: c :: (tag ++ ']' :: rest)).takeWhile
      (· == '\\')).length = 0 := rfl
  rw [List.cons_append, List.cons_append, piecesFrom]
  simp only [hslashes, List.drop_zero, hread]
  rfl

/-- **A coloured part** between plain texts. -/
theorem markupPieces_colored (hbefore : IsPlain before) (hinside : IsPlain inside)
    (hafter : IsPlain after) :
    markupPieces
        (before ++ ("[green]".toList ++ (inside ++ ("[/green]".toList ++ after)))) =
      [.plain before, .plain [], .tag "green".toList,
        .plain inside, .plain [], .tag "/green".toList, .plain after] := by
  have hlength :
      (before ++ ("[green]".toList ++ (inside ++ ("[/green]".toList ++ after)))).length =
        before.length + (inside.length + (after.length + 13 + 1) + 1) := by
    simp
    omega
  have hclosing : piecesFrom inside.reverse (after.length + 13 + 1)
      ("[/green]".toList ++ after) =
        [.plain inside, .plain [], .tag "/green".toList, .plain after] := by
    have htag := piecesFrom_tag '/' "green".toList (by decide) (by decide)
      inside.reverse (after.length + 13) after
    rw [List.reverse_reverse,
      piecesFrom_of_isPlain hafter (Nat.le_add_right after.length 13)] at htag
    exact htag
  have hopening : piecesFrom before.reverse
      (inside.length + (after.length + 13 + 1) + 1)
      ("[green]".toList ++ (inside ++ ("[/green]".toList ++ after))) =
        [.plain before, .plain [], .tag "green".toList,
          .plain inside, .plain [], .tag "/green".toList, .plain after] := by
    have htag := piecesFrom_tag 'g' "reen".toList (by decide) (by decide)
      before.reverse (inside.length + (after.length + 13 + 1))
      (inside ++ ("[/green]".toList ++ after))
    rw [List.reverse_reverse, piecesFrom_append hinside, List.append_nil,
      hclosing] at htag
    exact htag
  rw [markupPieces, hlength, piecesFrom_append hbefore, List.append_nil, hopening]

/-! ## Styles -/

namespace MarkupState

/-- Text opens no tag and closes none. -/
theorem addText_keeps (s : MarkupState) (cs : List Char) :
    (s.addText cs).isOpen = s.isOpen ∧ (s.addText cs).badSpans = s.badSpans := by
  unfold addText
  split
  · exact ⟨rfl, rfl⟩
  · exact ⟨rfl, rfl⟩

theorem normalText_green : Style.normalText "green".toList = .ok "green" := by
  decide +kernel

theorem addTag_green (s : MarkupState) : s.addTag "green".toList =
    .ok { s with
      isOpen := ⟨s.glyphs.length, "green", none⟩ :: s.isOpen, atEdge := true } := by
  show s.openTag "green".toList none = _
  rw [openTag, normalText_green]

/-- A colour that is closed can be drawn. -/
theorem addTag_close_green {s : MarkupState} {n : Nat}
    (h : s.isOpen = [⟨n, "green", none⟩]) :
    s.addTag "/green".toList = .ok { s with isOpen := [], atEdge := true } := by
  have hstyle : Style.ofText "green".toList = .ok { color := some "green" } := by
    decide +kernel
  have hname : Text.trim "green".toList = ['g', 'r', 'e', 'e', 'n'] := by
    decide +kernel
  have hclosed : s.closedBy "green".toList = .ok ⟨n, "green", none⟩ := by
    have hnormal : Style.normalText ['g', 'r', 'e', 'e', 'n'] = .ok "green" :=
      normalText_green
    simp only [closedBy, hname, hnormal, h]
    rfl
  have hspan : (⟨n, "green", none⟩ : OpenTag).badSpan? s.glyphs.length = none := by
    have hdrawn : (⟨n, "green", none⟩ : OpenTag).style = "green".toList :=
      List.append_nil _
    rw [OpenTag.badSpan?, hdrawn, hstyle]
  show s.closeTag "green".toList = _
  rw [closeTag, hclosed]
  simp [hspan, h, OpenTag.isSound, OpenTag.isAction]

end MarkupState

/-- **All of a text with a coloured part can be drawn.** -/
theorem badSpans_colored (hbefore : IsPlain before) (hinside : IsPlain inside)
    (hafter : IsPlain after) {text : String} (htext : text.toList =
      before ++ ("[green]".toList ++ (inside ++ ("[/green]".toList ++ after)))) :
    (printed text).map (·.badSpans) = .ok [] := by
  let s₁ := (({} : MarkupState).addText before).addText []
  let s₂ : MarkupState :=
    { s₁ with isOpen := ⟨s₁.glyphs.length, "green", none⟩ :: s₁.isOpen, atEdge := true }
  let s₃ := (s₂.addText inside).addText []
  let s₄ := ({ s₃ with isOpen := [], atEdge := true } : MarkupState).addText after
  have hnone : s₁.isOpen = [] ∧ s₁.badSpans = [] := by
    simp only [s₁, MarkupState.addText_keeps, and_self]
  have hopen : s₃.isOpen = [⟨s₁.glyphs.length, "green", none⟩] := by
    simp only [s₃, s₂, MarkupState.addText_keeps, hnone]
  have hprinted : printed text = .ok s₄.finish := by
    rw [printed, htext, markupPieces_colored hbefore hinside hafter]
    simp only [printPieces, MarkupState.addTag_green]
    rw [MarkupState.addTag_close_green hopen]
  have hspans : s₄.finish.badSpans = [] := by
    simp [s₄, s₃, s₂, MarkupState.finish, MarkupState.addText_keeps, hnone]
  rw [hprinted]
  exact congrArg _ hspans

end TableSketch.Console
