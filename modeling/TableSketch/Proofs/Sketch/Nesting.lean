import TableSketch.Proofs.Sketch.Layout

/-!
# What the balanced reading finds

The balanced reading lays a text out in regions: a heading, a content in which
the braces balance, and the closing brace.  It looks for headings between
regions only, so the layout is outermost (`Layout.IsOutermost`): no heading
begins inside a gap, except that the last gap may hold one whose region never
ends.

Inside a region the reading is a counter.  `StaysOpen d content` says that the
content never closes more braces than it opens and `d` others; as long as that
holds the scan stays in the body, at a depth that is the number of braces open
(`findingsToEnd_staysOpen`).  A text behind a heading either stays open for
ever or begins with a balanced content and a closing brace
(`closes_or_staysOpen`).

## Main results

* `findingsToEnd_layout` — the findings of a layout whose gaps hold no heading,
  region by region.
* `blocks_balanced_eq_iff` — the balanced blocks of a text are those regions
  of its outermost layout that are neither empty nor hold a brace.
-/

namespace TableSketch

/-! ## Counting braces -/

/-- No beginning of the content closes more braces than it opens and `d`
others. -/
def StaysOpen (d : Nat) (content : List Char) : Prop :=
  ∀ p, p <+: content → p.count '}' ≤ d + p.count '{'

theorem staysOpen_nil (d : Nat) : StaysOpen d [] := by
  intro p hp
  rw [List.prefix_nil.mp hp]
  simp

theorem staysOpen_cons_iff {d : Nat} {c : Char} {cs : List Char} :
    StaysOpen d (c :: cs) ↔
      ∀ p, p <+: cs → (c :: p).count '}' ≤ d + (c :: p).count '{' := by
  constructor
  · intro h p hp
    exact h (c :: p) (List.cons_prefix_cons.mpr ⟨rfl, hp⟩)
  · intro h p hp
    rcases List.prefix_cons_iff.mp hp with rfl | ⟨q, rfl, hq⟩
    · simp
    · exact h q hq

theorem staysOpen_open {d : Nat} {cs : List Char} :
    StaysOpen d ('{' :: cs) ↔ StaysOpen (d + 1) cs := by
  rw [staysOpen_cons_iff]
  refine forall_congr' fun p => imp_congr_right fun _ => ?_
  rw [List.count_cons_of_ne (by decide), List.count_cons_self]
  omega

theorem staysOpen_close {d : Nat} {cs : List Char} :
    StaysOpen (d + 1) ('}' :: cs) ↔ StaysOpen d cs := by
  rw [staysOpen_cons_iff]
  refine forall_congr' fun p => imp_congr_right fun _ => ?_
  rw [List.count_cons_self, List.count_cons_of_ne (by decide)]
  omega

theorem not_staysOpen_close {cs : List Char} : ¬ StaysOpen 0 ('}' :: cs) := by
  intro h
  simpa using h ['}'] (by simp)

theorem staysOpen_other {d : Nat} {c : Char} {cs : List Char}
    (hclose : c ≠ '}') (hopen : c ≠ '{') :
    StaysOpen d (c :: cs) ↔ StaysOpen d cs := by
  rw [staysOpen_cons_iff]
  simp [StaysOpen, hclose, hopen]

/-- The braces of a content balance. -/
structure IsBalanced (content : List Char) : Prop where
  /-- No brace is closed before it is opened. -/
  opened : ∀ p, p <+: content → p.count '}' ≤ p.count '{'
  /-- All braces are closed. -/
  closed : content.count '{' = content.count '}'

theorem IsBalanced.staysOpen {content : List Char} (h : IsBalanced content) :
    StaysOpen 0 content := by
  intro p hp
  simpa using h.opened p hp

/-- A text behind a heading either begins with what the closing brace encloses
or never gets to that brace. -/
theorem closes_or_staysOpen (d : Nat) (text : List Char) :
    (∃ content rest, text = content ++ '}' :: rest ∧ StaysOpen d content ∧
        content.count '}' = d + content.count '{') ∨
      StaysOpen d text := by
  induction text generalizing d with
  | nil => exact Or.inr (staysOpen_nil d)
  | cons c cs ih =>
      by_cases hclose : c = '}'
      · subst hclose
        cases d with
        | zero => exact Or.inl ⟨[], cs, rfl, staysOpen_nil 0, rfl⟩
        | succ d =>
            refine (ih d).imp ?_ staysOpen_close.mpr
            rintro ⟨content, rest, rfl, hstays, hcount⟩
            refine ⟨'}' :: content, rest, rfl, staysOpen_close.mpr hstays, ?_⟩
            rw [List.count_cons_self, List.count_cons_of_ne (by decide)]
            omega
      · by_cases hopen : c = '{'
        · subst hopen
          refine (ih (d + 1)).imp ?_ staysOpen_open.mpr
          rintro ⟨content, rest, rfl, hstays, hcount⟩
          refine ⟨'{' :: content, rest, rfl, staysOpen_open.mpr hstays, ?_⟩
          rw [List.count_cons_self, List.count_cons_of_ne (by decide)]
          omega
        · refine (ih d).imp ?_ (staysOpen_other hclose hopen).mpr
          rintro ⟨content, rest, rfl, hstays, hcount⟩
          refine ⟨c :: content, rest, rfl,
            (staysOpen_other hclose hopen).mpr hstays, ?_⟩
          simpa [hclose, hopen] using hcount

/-- Where no balanced content is closed, the text stays open. -/
theorem staysOpen_iff {text : List Char} :
    StaysOpen 0 text ↔
      ∀ content, IsBalanced content → ¬ (content ++ ['}']) <+: text := by
  constructor
  · intro h content hbalanced hprefix
    have hcount := h _ hprefix
    have hclosed := hbalanced.closed
    rw [List.count_append, List.count_append,
      show ['}'].count '}' = 1 from rfl, show ['}'].count '{' = 0 from rfl]
      at hcount
    omega
  · intro h
    rcases closes_or_staysOpen 0 text with
      ⟨content, rest, rfl, hstays, hcount⟩ | hstays
    · have hbalanced : IsBalanced content := by
        refine ⟨fun p hp => by simpa using hstays p hp, by omega⟩
      exact absurd ⟨rest, by simp⟩ (h content hbalanced)
    · exact hstays

/-! ## Reading a region -/

/-- As long as the body stays open, the depth counts its open braces. -/
theorem findingsToEnd_staysOpen (name acc : List Char) (nested : Bool)
    {content rest : List Char} {d e : Nat} (h : StaysOpen d content)
    (he : e + content.count '}' = d + content.count '{') :
    findingsToEnd .balanced (.body name acc d nested) (content ++ rest) =
      findingsToEnd .balanced
        (.body name (content.reverse ++ acc) e
          (nested || content.contains '{')) rest := by
  induction content generalizing acc d nested with
  | nil =>
      obtain rfl : e = d := by simpa using he
      simp
  | cons c cs ih =>
      rw [List.cons_append, findingsToEnd_cons]
      by_cases hclose : c = '}'
      · subst hclose
        cases d with
        | zero => exact absurd h not_staysOpen_close
        | succ d =>
            rw [List.count_cons_self, List.count_cons_of_ne (by decide)] at he
            simpa [ScanState.step] using
              ih ('}' :: acc) nested (staysOpen_close.mp h) (by omega)
      · by_cases hopen : c = '{'
        · subst hopen
          rw [List.count_cons_self, List.count_cons_of_ne (by decide)] at he
          simpa [ScanState.step] using
            ih ('{' :: acc) true (staysOpen_open.mp h) (by omega)
        · rw [List.count_cons_of_ne hclose, List.count_cons_of_ne hopen] at he
          simpa [ScanState.step, hclose, hopen, Ne.symm hopen] using
            ih (c :: acc) nested ((staysOpen_other hclose hopen).mp h) he

namespace Enclosed

/-- What the balanced reading has to say about a region. -/
def finding? (e : Enclosed IsBalanced) : Option Finding :=
  if '{' ∈ e.content then some (.nested e.name)
  else if e.content = [] then none
  else some (.block e.block)

/-- **One region.**  Behind a gap without headings it is read as a whole. -/
theorem findingsToEnd_region (e : Enclosed IsBalanced)
    {gap rest : List Char} (hclear : Clear StartsHeading gap (e.text ++ rest)) :
    findingsToEnd .balanced .outside (gap ++ (e.text ++ rest)) =
      e.finding?.toList ++ findingsToEnd .balanced .outside rest := by
  rw [e.text_append] at hclear ⊢
  rw [findingsToEnd_heading .balanced hclear,
    findingsToEnd_staysOpen (e := 0) _ _ _ e.holds.staysOpen
      (by rw [e.holds.closed]),
    findingsToEnd_close]
  congr 2
  by_cases hopen : '{' ∈ e.content
  · simp [ScanState.closing, finding?, hopen]
  · by_cases hempty : e.content = []
    · simp [ScanState.closing, finding?, hempty]
    · simp [ScanState.closing, finding?, hopen, hempty, block]

end Enclosed

/-! ## Reading a layout -/

namespace Layout

/-- The gap behind all regions. -/
def lastGap {C : List Char → Prop} : Layout C → List Char
  | .last gap => gap
  | .block _ _ rest => rest.lastGap

/-- What the balanced reading has to say about the regions. -/
def findings : Layout IsBalanced → List Finding
  | .last _ => []
  | .block _ e rest => e.finding?.toList ++ rest.findings

theorem Spaced.lastGap {C : List Char → Prop} {P : List Char → Prop}
    {E : List Char → List Char → Prop} {l : Layout C} {before : List Char}
    (h : l.Spaced P E before) : ∃ before', E before' l.lastGap := by
  induction l generalizing before with
  | last gap => exact ⟨before, h⟩
  | block gap e rest ih => exact ih h.2.2

/-- **All regions.**  Where the gaps between regions hold no heading, the
regions are read one by one, and then the last gap. -/
theorem findingsToEnd_layout {E : List Char → List Char → Prop}
    {l : Layout IsBalanced} {before : List Char}
    (h : l.Spaced StartsHeading E before) :
    findingsToEnd .balanced .outside l.text =
      l.findings ++ findingsToEnd .balanced .outside l.lastGap := by
  induction l generalizing before with
  | last gap => rfl
  | block gap e rest ih =>
      obtain ⟨hclear, -, hrest⟩ := h
      rw [text, e.findingsToEnd_region hclear, ih hrest, ← List.append_assoc]
      rfl

/-- The regions that are reported as blocks. -/
theorem filterMap_findings (l : Layout IsBalanced) :
    l.findings.filterMap Finding.block? =
      l.blocks.filter fun b =>
        b.body ≠ [] ∧ '{' ∉ b.body ∧ '}' ∉ b.body := by
  induction l with
  | last gap => rfl
  | block gap e rest ih =>
      rw [findings, blocks, List.filterMap_append, List.filter_cons, ih]
      by_cases hopen : '{' ∈ e.content
      · simp [Enclosed.finding?, Enclosed.block, hopen, Finding.block?]
      · have hclose : '}' ∉ e.content := by
          have hclosed := e.holds.closed
          rw [List.count_eq_zero.mpr hopen] at hclosed
          exact List.count_eq_zero.mp hclosed.symm
        by_cases hempty : e.content = []
        · simp [Enclosed.finding?, Enclosed.block, hempty]
        · simp [Enclosed.finding?, Enclosed.block, hopen, hclose, hempty,
            Finding.block?]

end Layout

/-! ## The outermost layout -/

/-- The last gap of an outermost layout: it holds no heading, or the first
one in it opens a region that is never closed. -/
inductive Ends (before : List Char) : List Char → Prop
  | clear {gap : List Char} : Clear StartsHeading gap [] → Ends before gap
  | unclosed {gap rest : List Char} {h : Heading} :
      Clear StartsHeading gap (h.text ++ rest) → ¬ EndsInWord (before ++ gap) →
      (∀ content, IsBalanced content → ¬ (content ++ ['}']) <+: rest) →
      Ends before (gap ++ (h.text ++ rest))

/-- No heading begins inside the gaps between regions, all names are whole
words, and the last gap ends the text. -/
def Layout.IsOutermost (l : Layout IsBalanced) : Prop :=
  l.Spaced StartsHeading Ends []

/-- Behind a heading whose region is never closed, nothing else is found. -/
theorem findingsToEnd_unterminated {gap rest : List Char} {h : Heading}
    (hclear : Clear StartsHeading gap (h.text ++ rest))
    (hrest : ∀ content, IsBalanced content →
      ¬ (content ++ ['}']) <+: rest) :
    findingsToEnd .balanced .outside (gap ++ (h.text ++ rest)) =
      [.unterminated h.name] := by
  have hstays : StaysOpen 0 rest := staysOpen_iff.mpr hrest
  have hcount := hstays rest (List.prefix_refl rest)
  obtain ⟨e, he⟩ := Nat.exists_eq_add_of_le' hcount
  rw [findingsToEnd_heading .balanced hclear, ← List.append_nil rest,
    findingsToEnd_staysOpen _ _ _ hstays he.symm]
  simp [findingsToEnd_nil, ScanState.atEnd]

theorem Ends.blocksFrom_eq_nil {before gap : List Char} (h : Ends before gap) :
    blocksFrom .balanced .outside gap = [] := by
  cases h with
  | clear hclear => rw [blocksFrom, findingsToEnd_clear .balanced hclear]; rfl
  | unclosed hclear _ hrest =>
      rw [blocksFrom, findingsToEnd_unterminated hclear hrest]
      rfl

/-- The blocks of an outermost layout. -/
theorem Layout.IsOutermost.blocks_eq {l : Layout IsBalanced}
    (h : l.IsOutermost) :
    TableSketch.blocks .balanced l.text =
      l.blocks.filter fun b =>
        b.body ≠ [] ∧ '{' ∉ b.body ∧ '}' ∉ b.body := by
  obtain ⟨before', hends⟩ := h.lastGap
  rw [blocks_eq_blocksFrom, blocksFrom, findingsToEnd_layout h,
    List.filterMap_append, ← blocksFrom, hends.blocksFrom_eq_nil,
    List.append_nil, filterMap_findings]

/-- Every text has an outermost layout. -/
theorem exists_outermost (text : List Char) :
    ∀ before : List Char, ¬ EndsInWord before →
      ∃ l : Layout IsBalanced, l.text = text ∧
        l.Spaced StartsHeading Ends before := by
  induction hn : text.length using Nat.strongRecOn generalizing text with
  | ind n ih =>
      intro before hword
      cases search_outside .balanced text with
      | nothing hclear _ =>
          exact ⟨.last text, rfl, .clear hclear⟩
      | found gap h rest hsplit hclear hword' _ =>
          rw [List.nil_append] at hsplit
          subst hsplit
          have hwords : ¬ EndsInWord (before ++ gap) :=
            not_endsInWord_append hword hword'
          rcases closes_or_staysOpen 0 rest with
            ⟨content, rest, rfl, hstays, hcount⟩ | hstays
          · have hbalanced : IsBalanced content :=
              ⟨fun p hp => by simpa using hstays p hp, by omega⟩
            let e : Enclosed IsBalanced := ⟨h, content, hbalanced⟩
            have hlt : rest.length < n := by
              rw [← hn]
              simp only [List.length_append, List.length_cons]
              omega
            obtain ⟨l, rfl, hl⟩ :=
              ih _ hlt rest rfl (before ++ gap ++ e.text) (e.not_endsInWord _)
            refine ⟨.block gap e l, ?_, ?_, hwords, hl⟩
            · rw [Layout.text, e.text_append]
            · rwa [e.text_append]
          · exact ⟨.last _, rfl,
              .unclosed hclear hwords (staysOpen_iff.mp hstays)⟩

/-- **Exactness of the balanced reading.**  The blocks of a text are those
regions of an outermost layout that are neither empty nor hold a brace: every
text has such a layout, and any of them gives the same blocks. -/
theorem blocks_balanced_eq_iff (text : List Char) (bs : List Block) :
    blocks .balanced text = bs ↔
      ∃ l : Layout IsBalanced, l.text = text ∧ l.IsOutermost ∧
        (l.blocks.filter fun b =>
          b.body ≠ [] ∧ '{' ∉ b.body ∧ '}' ∉ b.body) = bs := by
  constructor
  · rintro rfl
    obtain ⟨l, rfl, hl⟩ := exists_outermost text [] not_endsInWord_nil
    have houter : l.IsOutermost := hl
    exact ⟨l, rfl, hl, houter.blocks_eq.symm⟩
  · rintro ⟨l, rfl, hl, rfl⟩
    exact hl.blocks_eq

end TableSketch
