import TableSketch.Proofs.Sketch.Heading

/-!
# Layouts of a sketch

A layout cuts a text into enclosed contents, each with its heading and its
closing brace, and the gaps before, between and behind them.  What a content
may be is a parameter: for the first-close reading it is a body, that is a
non-empty text without closing brace (`IsBody`).

A layout is leftmost if nowhere in its gaps the text goes on with a block, not
even with one that reaches past the gap.  No text has two leftmost layouts
(`Layout.eq_of_spaced`), because a block can be read off the text in one way
only (`Enclosed.text_append_inj`).

The first-close reading finds the leftmost layout.  A heading that it passes
over has an empty body or one that never ends, and then no block begins
anywhere inside that heading (`clear_heading`).

## Main results

* `blocks_firstClose_eq_iff` — the first-close blocks of a text are those of
  its leftmost layout.
-/

namespace TableSketch

/-! ## Enclosed contents -/

/-- A heading, a content of the kind `C`, and a closing brace. -/
@[ext]
structure Enclosed (C : List Char → Prop) extends Heading where
  content : List Char
  holds : C content

namespace Enclosed

variable {C : List Char → Prop}

/-- The block as it is written. -/
def text (e : Enclosed C) : List Char :=
  e.toHeading.text ++ (e.content ++ ['}'])

/-- The name and the content. -/
def block (e : Enclosed C) : Block := ⟨e.name, e.content⟩

theorem text_append (e : Enclosed C) (rest : List Char) :
    e.text ++ rest = e.toHeading.text ++ (e.content ++ '}' :: rest) := by
  simp [text]

theorem startsHeading (e : Enclosed C) (rest : List Char) :
    StartsHeading (e.text ++ rest) :=
  ⟨e.toHeading, _, e.text_append rest⟩

theorem text_ne_nil (e : Enclosed C) (rest : List Char) :
    e.text ++ rest ≠ [] := by
  obtain ⟨c, cs, htext, -⟩ := e.toHeading.text_eq_cons
  rw [text_append, htext]
  exact List.cons_ne_nil _ _

/-- Behind a block the text is not in the middle of a word. -/
theorem not_endsInWord (e : Enclosed C) (before : List Char) :
    ¬ EndsInWord (before ++ e.text) := by
  rw [text, ← List.append_assoc, ← List.append_assoc, endsInWord_concat]
  decide

end Enclosed

/-! ## Layouts -/

/-- A text cut into enclosed contents and gaps. -/
inductive Layout (C : List Char → Prop) where
  | last (gap : List Char)
  | block (gap : List Char) (e : Enclosed C) (rest : Layout C)

namespace Layout

variable {C : List Char → Prop}

/-- The text that is laid out. -/
def text : Layout C → List Char
  | .last gap => gap
  | .block gap e rest => gap ++ (e.text ++ rest.text)

/-- The blocks of a layout, in order. -/
def blocks : Layout C → List Block
  | .last _ => []
  | .block _ e rest => e.block :: rest.blocks

/-- `P` holds nowhere inside the gaps in front of the blocks, no name is the
end of a longer word, and `E` holds of the last gap.  `before` is the text in
front of the layout; `E` is told what stands in front of the last gap. -/
def Spaced (P : List Char → Prop) (E : List Char → List Char → Prop) :
    List Char → Layout C → Prop
  | before, .last gap => E before gap
  | before, .block gap e rest =>
      Clear P gap (e.text ++ rest.text) ∧ ¬ EndsInWord (before ++ gap) ∧
        rest.Spaced P E (before ++ gap ++ e.text)

end Layout

/-! ## The leftmost layout -/

/-- A body: a text without closing brace that is not empty. -/
def IsBody (content : List Char) : Prop := content ≠ [] ∧ '}' ∉ content

/-- The text goes on with a block. -/
def StartsBlock (text : List Char) : Prop :=
  ∃ (e : Enclosed IsBody) (rest : List Char), text = e.text ++ rest

/-- No block begins inside the gaps, and all names are whole words. -/
def Layout.IsLeftmost (l : Layout IsBody) : Prop :=
  l.Spaced StartsBlock (fun _ gap => Clear StartsBlock gap []) []

/-- A body and the text behind it are told apart by the first closing
brace. -/
theorem IsBody.append_inj {content content' r r' : List Char}
    (h : '}' ∉ content) (h' : '}' ∉ content')
    (heq : content ++ '}' :: r = content' ++ '}' :: r') :
    content = content' ∧ r = r' := by
  have hne : ∀ {cs : List Char}, '}' ∉ cs → ∀ c ∈ cs, (c != '}') = true := by
    intro cs hcs c hc
    simpa using fun e : c = '}' => hcs (e ▸ hc)
  have htake := congrArg (List.takeWhile (· != '}')) heq
  have hdrop := congrArg (List.dropWhile (· != '}')) heq
  rw [takeWhile_run (hne h) (head_cons (by decide)),
    takeWhile_run (hne h') (head_cons (by decide))] at htake
  rw [dropWhile_run (hne h) (head_cons (by decide)),
    dropWhile_run (hne h') (head_cons (by decide))] at hdrop
  exact ⟨htake, (List.cons.inj hdrop).2⟩

/-- A text begins with at most one block. -/
theorem Enclosed.text_append_inj {e e' : Enclosed IsBody} {r r' : List Char}
    (heq : e.text ++ r = e'.text ++ r') : e = e' ∧ r = r' := by
  rw [text_append, text_append] at heq
  obtain ⟨hheading, hcontent⟩ := Heading.text_append_inj heq
  obtain ⟨hcontent, hrest⟩ :=
    IsBody.append_inj e.holds.2 e'.holds.2 hcontent
  obtain ⟨h, content, holds⟩ := e
  obtain ⟨h', content', holds'⟩ := e'
  subst hheading hcontent
  exact ⟨rfl, hrest⟩

/-- No text has two leftmost layouts. -/
theorem Layout.eq_of_spaced {l l' : Layout IsBody} {before : List Char}
    (h : l.Spaced StartsBlock (fun _ gap => Clear StartsBlock gap []) before)
    (h' : l'.Spaced StartsBlock (fun _ gap => Clear StartsBlock gap []) before)
    (heq : l.text = l'.text) : l = l' := by
  induction l generalizing l' before with
  | last gap =>
      cases l' with
      | last gap' => exact congrArg Layout.last heq
      | block gap' e' rest' =>
          refine absurd ?_ (h gap' _ heq (e'.text_ne_nil _))
          exact ⟨e', rest'.text, List.append_nil _⟩
  | block gap e rest ih =>
      cases l' with
      | last gap' =>
          refine absurd ?_ (h' gap _ heq.symm (e.text_ne_nil _))
          exact ⟨e, rest.text, List.append_nil _⟩
      | block gap' e' rest' =>
          obtain ⟨hclear, -, hrest⟩ := h
          obtain ⟨hclear', -, hrest'⟩ := h'
          obtain ⟨rfl, htext⟩ := hclear.unique hclear' ⟨e, rest.text, rfl⟩
            ⟨e', rest'.text, rfl⟩ heq
          obtain ⟨rfl, hbehind⟩ := Enclosed.text_append_inj htext
          rw [ih hrest hrest' hbehind]

/-! ## Reading from block to block -/

theorem StartsBlock.startsHeading {t : List Char} (h : StartsBlock t) :
    StartsHeading t := by
  obtain ⟨e, rest, rfl⟩ := h
  exact e.startsHeading rest

/-- Every block holds a closing brace. -/
theorem StartsBlock.mem {t : List Char} (h : StartsBlock t) : '}' ∈ t := by
  obtain ⟨e, rest, rfl⟩ := h
  simp [Enclosed.text]

/-- Inside a heading that no body follows, no block begins. -/
theorem clear_heading {h : Heading} {rest : List Char}
    (hrest : ∀ content r, IsBody content → rest ≠ content ++ '}' :: r) :
    Clear StartsBlock h.text rest := by
  rintro a b hsplit hb ⟨e, r, heq⟩
  rw [e.text_append] at heq
  have hbody := Heading.rest_eq_of_inside hsplit hb heq.symm
  exact hrest e.content r e.holds hbody.symm

/-- Nor does one begin inside a block with an empty body. -/
theorem clear_empty_block {h : Heading} {rest : List Char} :
    Clear StartsBlock (h.text ++ ['}']) rest := by
  have hbrace : Clear StartsBlock ['}'] rest := by
    refine clear_singleton fun hstarts => ?_
    exact absurd hstarts.startsHeading.isWordChar_head (by decide)
  refine (clear_heading ?_).append hbrace
  rintro content r ⟨hne, hclose⟩ heq
  obtain ⟨c, cs, rfl⟩ := List.exists_cons_of_ne_nil hne
  obtain rfl : '}' = c := (List.cons.inj heq).1
  exact hclose (by simp)

/-- No block begins where the closing brace is missing. -/
theorem clear_of_not_mem {gap rest : List Char} (h : '}' ∉ gap ++ rest) :
    Clear StartsBlock gap rest := by
  rintro a b rfl - hstarts
  refine h ?_
  rw [List.append_assoc]
  exact List.mem_append_right a hstarts.mem

/-- Nor inside or behind a heading whose body does not end. -/
theorem clear_unclosed {h : Heading} {rest : List Char} (hrest : '}' ∉ rest) :
    Clear StartsBlock (h.text ++ rest) [] := by
  refine Clear.append (clear_heading ?_) (clear_of_not_mem (by simpa))
  rintro content r - heq
  rw [List.append_nil] at heq
  simp [heq] at hrest

/-- The block behind a heading, if its body is not empty. -/
theorem blocksFrom_body (name : List Char) {body : List Char}
    (hbody : '}' ∉ body) (rest : List Char) :
    blocksFrom .firstClose (.body name.reverse [] 0 false)
        (body ++ '}' :: rest) =
      (if body = [] then [] else [⟨name, body⟩]) ++
        blocksFrom .firstClose .outside rest := by
  rw [blocksFrom, findingsToEnd_block _ hbody, List.filterMap_append,
    ← blocksFrom]
  by_cases hempty : body = []
  · simp [hempty, ScanState.closing]
  · simp [hempty, ScanState.closing, Finding.block?]

/-- What the first-close reading comes to next in a text. -/
inductive NextBlock (text : List Char) : Prop
  /-- No block any more. -/
  | nothing : Clear StartsBlock text [] →
      blocksFrom .firstClose .outside text = [] → NextBlock text
  /-- A heading with an empty body, which is passed over. -/
  | skipped (skip rest : List Char) : text = skip ++ rest → skip ≠ [] →
      Clear StartsBlock skip rest → ¬ EndsInWord skip →
      blocksFrom .firstClose .outside text =
        blocksFrom .firstClose .outside rest →
      NextBlock text
  /-- A block, the first one, behind a gap. -/
  | found (gap : List Char) (e : Enclosed IsBody) (rest : List Char) :
      text = gap ++ (e.text ++ rest) →
      Clear StartsBlock gap (e.text ++ rest) → ¬ EndsInWord gap →
      blocksFrom .firstClose .outside text =
        e.block :: blocksFrom .firstClose .outside rest →
      NextBlock text

/-- **One step of the first-close reading.** -/
theorem nextBlock (text : List Char) : NextBlock text := by
  cases search_outside .firstClose text with
  | nothing hclear hempty =>
      exact .nothing
        (by simpa using hclear.mono fun _ => StartsBlock.startsHeading)
        (by rw [blocksFrom, hempty]; rfl)
  | found gap h rest hsplit hheading hword hfound =>
      rw [List.nil_append] at hsplit
      subst hsplit
      have hclear : Clear StartsBlock gap (h.text ++ rest) :=
        hheading.mono fun _ => StartsBlock.startsHeading
      have hread : blocksFrom .firstClose .outside (gap ++ (h.text ++ rest)) =
          blocksFrom .firstClose (.body h.name.reverse [] 0 false) rest :=
        congrArg (List.filterMap Finding.block?) hfound
      by_cases hclose : '}' ∈ rest
      · obtain ⟨body, rest, rfl, hbody⟩ := List.eq_append_cons_of_mem hclose
        rw [blocksFrom_body _ hbody] at hread
        by_cases hempty : body = []
        · subst hempty
          refine .skipped (gap ++ (h.text ++ ['}'])) rest (by simp) (by simp)
            ?_ ?_ (by simpa using hread)
          · exact Clear.append (by simpa using hclear) clear_empty_block
          · rw [← List.append_assoc, endsInWord_concat]
            decide
        · let e : Enclosed IsBody := ⟨h, body, hempty, hbody⟩
          rw [if_neg hempty] at hread
          refine .found gap e rest ?_ ?_ hword hread
          · rw [e.text_append]
          · rwa [e.text_append]
      · refine .nothing (Clear.append (by simpa using hclear)
          (clear_unclosed hclose)) ?_
        rw [hread, blocksFrom, findingsToEnd_unclosed _ _ _ _ _ hclose]
        rfl

/-- **The first-close reading finds the leftmost layout.**  `gap` is the part
of the text already searched since the last block. -/
theorem exists_leftmost (text : List Char) :
    ∀ before gap : List Char, ¬ EndsInWord (before ++ gap) →
      Clear StartsBlock gap text →
      ∃ l : Layout IsBody, l.text = gap ++ text ∧
        l.Spaced StartsBlock (fun _ gap => Clear StartsBlock gap []) before ∧
        blocksFrom .firstClose .outside text = l.blocks := by
  induction hn : text.length using Nat.strongRecOn generalizing text with
  | ind n ih =>
      intro before gap hword hgap
      cases nextBlock text with
      | nothing hclear hblocks =>
          refine ⟨.last (gap ++ text), rfl, ?_, hblocks⟩
          exact Clear.append (by simpa using hgap) hclear
      | skipped skip rest hsplit hne hclear hskip hblocks =>
          subst hsplit
          have hlt : rest.length < n := by
            have hpos := List.length_pos_iff.mpr hne
            rw [← hn, List.length_append]
            omega
          have hword' : ¬ EndsInWord (before ++ (gap ++ skip)) := by
            rw [← List.append_assoc]
            exact not_endsInWord_append hword hskip
          obtain ⟨l, htext, hl, hrest⟩ :=
            ih _ hlt rest rfl before (gap ++ skip) hword' (hgap.append hclear)
          exact ⟨l, by rw [htext, List.append_assoc], hl, hblocks.trans hrest⟩
      | found gap' e rest hsplit hclear hgap' hblocks =>
          subst hsplit
          have hlt : rest.length < n := by
            rw [← hn, e.text_append]
            simp only [List.length_append, List.length_cons]
            omega
          have hword' : ¬ EndsInWord (before ++ (gap ++ gap')) := by
            rw [← List.append_assoc]
            exact not_endsInWord_append hword hgap'
          obtain ⟨l, rfl, hl, hrest⟩ :=
            ih _ hlt rest rfl (before ++ (gap ++ gap') ++ e.text) []
              (by rw [List.append_nil]; exact e.not_endsInWord _) clear_nil
          refine ⟨.block (gap ++ gap') e l, ?_,
            ⟨hgap.append hclear, hword', hl⟩, ?_⟩
          · rw [Layout.text, List.append_assoc]
          · rw [hblocks, hrest]
            rfl

/-- **Exactness of the first-close reading.**  The blocks of a text are those
of its leftmost layout: every text has one, and no other layout of the text is
leftmost. -/
theorem blocks_firstClose_eq_iff (text : List Char) (bs : List Block) :
    blocks .firstClose text = bs ↔
      ∃ l : Layout IsBody, l.text = text ∧ l.IsLeftmost ∧ l.blocks = bs := by
  obtain ⟨l, htext, hl, hblocks⟩ :=
    exists_leftmost text [] [] not_endsInWord_nil clear_nil
  rw [← blocks_eq_blocksFrom] at hblocks
  constructor
  · rintro rfl
    exact ⟨l, htext, hl, hblocks.symm⟩
  · rintro ⟨l', htext', hl', rfl⟩
    rw [hblocks, Layout.eq_of_spaced hl hl' (htext.trans htext'.symm)]

end TableSketch
