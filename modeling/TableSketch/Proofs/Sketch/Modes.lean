import TableSketch.Proofs.Sketch.Reading

/-!
# The two readings of one sketch

The first-close and the balanced reading differ in a single step, at a brace
that opens inside a body.  From there on they are out of step: the balanced
reading skips the whole region that it is going to reject, while the other one
ends its block at the first closing brace and finds further headings inside
that region.

They fall back into step by themselves.  The brace that closes the rejected
region leads the first-close reading out of whatever it is in the middle of
(`Shallow.step_close`), so both go on from `outside`.  `Alongside` is that
relation between the two states; a character keeps it and closes a block in
the balanced reading only if it closes the same block in the other one
(`Alongside.step`).

## Main results

* `blocks_balanced_sublist_filter` — the balanced blocks are a subsequence of
  those first-close blocks in which no brace opens.
* `balanced_sublist_firstClose` — hence of all of them, and likewise for
  tables.
* `balanced_eq_firstClose_iff` — the readings agree on exactly those sketches
  none of whose first-close blocks holds an opening brace.
-/

namespace TableSketch

/-- No brace opens in the body of a block. -/
def Block.isFlat (b : Block) : Bool := !b.body.contains '{'

theorem Block.isFlat_iff {b : Block} : b.isFlat = true ↔ '{' ∉ b.body := by
  simp [Block.isFlat]

namespace ScanState

/-! ## States of one reading -/

/-- The scan is inside a body. -/
def InBody : ScanState → Prop
  | .body _ _ _ _ => True
  | _ => False

theorem inBody_cases (s : ScanState) :
    ¬ s.InBody ∨
      ∃ name content depth nested, s = .body name content depth nested := by
  cases s <;> simp [InBody]

/-- No brace has opened since the body began. -/
def Flat : ScanState → Prop
  | .body _ content depth nested =>
      depth = 0 ∧ nested = false ∧ '{' ∉ content
  | _ => True

/-- The next closing brace ends the body. -/
def Shallow : ScanState → Prop
  | .body _ _ depth _ => depth = 0
  | _ => True

theorem Flat.shallow {s : ScanState} (h : s.Flat) : s.Shallow := by
  cases s with
  | body name content depth nested => exact h.1
  | _ => trivial

theorem flat_restart (c : Char) : (restart c).Flat := by
  unfold restart
  split <;> trivial

/-- Outside bodies the readings take the same step, nothing is reported, and
a body that begins is flat. -/
theorem step_of_not_inBody {s : ScanState} (h : ¬ s.InBody) (c : Char) :
    (∀ mode, s.step mode c = ((s.step .firstClose c).1, none)) ∧
      (s.step .firstClose c).1.Flat := by
  cases s with
  | body name content depth nested => exact absurd trivial h
  | outside => exact ⟨fun _ => rfl, flat_restart c⟩
  | word name =>
      simp only [step]
      split
      · exact ⟨fun _ => rfl, trivial⟩
      · split
        · exact ⟨fun _ => rfl, trivial⟩
        · split <;> exact ⟨fun _ => rfl, trivial⟩
  | named name =>
      simp only [step]
      split
      · exact ⟨fun _ => rfl, trivial⟩
      · split
        · exact ⟨fun _ => rfl, trivial⟩
        · exact ⟨fun _ => rfl, flat_restart c⟩
  | colon name =>
      simp only [step]
      split
      · exact ⟨fun _ => rfl, rfl, rfl, List.not_mem_nil⟩
      · split
        · exact ⟨fun _ => rfl, trivial⟩
        · exact ⟨fun _ => rfl, flat_restart c⟩

/-- The first-close reading never counts braces. -/
theorem Shallow.step {s : ScanState} (h : s.Shallow) (c : Char) :
    (s.step .firstClose c).1.Shallow := by
  rcases s.inBody_cases with hbody | ⟨name, content, depth, nested, rfl⟩
  · exact (step_of_not_inBody hbody c).2.shallow
  · obtain rfl : depth = 0 := h
    by_cases hc : c = '}'
    · simp [ScanState.step, hc, Shallow]
    · simp [ScanState.step, hc, Shallow]

/-- A closing brace leads out of every heading, and out of a shallow body. -/
theorem Shallow.step_close {s : ScanState} (h : s.Shallow) (mode : ScanMode) :
    (s.step mode '}').1 = .outside := by
  cases s with
  | body name content depth nested =>
      obtain rfl : depth = 0 := h
      rfl
  | _ => rfl

/-- What a character does in a flat state.  Either it opens a brace inside a
body, or the readings take the same step and stay flat. -/
theorem Flat.step_cases {s : ScanState} (h : s.Flat) (c : Char) :
    (∃ name content, s = .body name content 0 false ∧ c = '{') ∨
      (s.step .balanced c = s.step .firstClose c ∧
        (s.step .firstClose c).1.Flat ∧
        ∀ b ∈ s.blockAt? .firstClose c, b.isFlat = true) := by
  rcases s.inBody_cases with hbody | ⟨name, content, depth, nested, rfl⟩
  · obtain ⟨hstep, hflat⟩ := step_of_not_inBody hbody c
    refine Or.inr ⟨(hstep _).trans (hstep _).symm, hflat, fun b hb => ?_⟩
    rw [blockAt?, hstep] at hb
    cases hb
  obtain ⟨rfl, rfl, hopen⟩ := h
  by_cases hc : c = '{'
  · exact Or.inl ⟨name, content, rfl, hc⟩
  refine Or.inr ?_
  by_cases hclose : c = '}'
  · subst hclose
    refine ⟨rfl, trivial, fun b hb => ?_⟩
    have hb' : b = ⟨name.reverse, content.reverse⟩ := by
      cases content with
      | nil => simp [blockAt?, step, closing] at hb
      | cons d ds =>
          simpa [blockAt?, step, closing, Finding.block?, eq_comm] using hb
    rw [hb', Block.isFlat_iff]
    simpa using hopen
  · have hnext : '{' ∉ c :: content := by
      simpa [Ne.symm hc] using hopen
    simp [step, blockAt?, hc, hclose, Flat, hnext]

/-! ## States of the two readings -/

/-- The states that the balanced and the first-close reading of one text can
be in at the same time. -/
inductive Alongside : ScanState → ScanState → Prop
  /-- In step, no brace having opened in the body at hand. -/
  | inStep {s : ScanState} : s.Flat → Alongside s s
  /-- The balanced reading is inside a region that it is going to reject. -/
  | rejecting {name content : List Char} {depth : Nat} {s : ScanState} :
      s.Shallow → Alongside (.body name content depth true) s

/-- **One character.**  The readings stay alongside, and the balanced one
closes no block but a flat one that the other closes too. -/
theorem Alongside.step {s t : ScanState} (h : Alongside s t) (c : Char) :
    Alongside (s.step .balanced c).1 (t.step .firstClose c).1 ∧
      (s.blockAt? .balanced c).toList.Sublist
        ((t.blockAt? .firstClose c).toList.filter Block.isFlat) := by
  cases h with
  | inStep hflat =>
      rcases hflat.step_cases c with ⟨name, content, rfl, rfl⟩ |
        ⟨hstep, hflat', hblock⟩
      · exact ⟨.rejecting rfl, List.nil_sublist _⟩
      · refine ⟨by rw [hstep]; exact .inStep hflat', ?_⟩
        have hkeep : (s.blockAt? .firstClose c).toList.filter Block.isFlat =
            (s.blockAt? .firstClose c).toList :=
          List.filter_eq_self.mpr fun b hb => hblock b (by simpa using hb)
        rw [hkeep, blockAt?, hstep]
        exact List.Sublist.refl _
  | @rejecting name content depth _ hshallow =>
      by_cases hc : c = '}'
      · subst hc
        cases depth with
        | zero =>
            refine ⟨?_, List.nil_sublist _⟩
            rw [hshallow.step_close]
            exact .inStep trivial
        | succ d =>
            exact ⟨.rejecting (hshallow.step _), List.nil_sublist _⟩
      · have hstep : ∃ depth', ScanState.step .balanced
            (.body name content depth true) c =
              (.body name (c :: content) depth' true, none) := by
          by_cases hopen : c = '{'
          · exact ⟨depth + 1, by simp [ScanState.step, hopen]⟩
          · exact ⟨depth, by simp [ScanState.step, hc, hopen]⟩
        obtain ⟨depth', hstep⟩ := hstep
        rw [blockAt?, hstep]
        exact ⟨.rejecting (hshallow.step c), List.nil_sublist _⟩

end ScanState

/-! ## Whole texts -/

/-- **A whole text.**  Read from states that can occur together, the balanced
blocks are a subsequence of the flat first-close blocks. -/
theorem ScanState.Alongside.blocksFrom_sublist {s t : ScanState}
    (h : ScanState.Alongside s t) (text : List Char) :
    (blocksFrom .balanced s text).Sublist
      ((blocksFrom .firstClose t text).filter Block.isFlat) := by
  induction text generalizing s t with
  | nil =>
      rw [blocksFrom_nil]
      exact List.nil_sublist _
  | cons c cs ih =>
      obtain ⟨hnext, hblock⟩ := h.step c
      rw [blocksFrom_cons, blocksFrom_cons, List.filter_append]
      exact hblock.append (ih hnext)

/-- The balanced blocks of a sketch are among its flat first-close blocks, in
the same order. -/
theorem blocks_balanced_sublist_filter (text : List Char) :
    (blocks .balanced text).Sublist
      ((blocks .firstClose text).filter Block.isFlat) :=
  ScanState.Alongside.blocksFrom_sublist (.inStep (s := .outside) trivial) text

/-- A brace that opens inside a body leaves its mark on the block: if no
block with an opening brace is reported, the body is not closed. -/
theorem not_mem_of_isFlat {name content text : List Char}
    (hcontent : '{' ∈ content)
    (h : ∀ b ∈ blocksFrom .firstClose (.body name content 0 false) text,
      b.isFlat = true) : '}' ∉ text := by
  intro hclose
  obtain ⟨body, rest, rfl, hbody⟩ := List.eq_append_cons_of_mem hclose
  have hmem : Block.mk name.reverse (body.reverse ++ content).reverse ∈
      blocksFrom .firstClose (.body name content 0 false)
        (body ++ '}' :: rest) := by
    have hne : body.reverse ++ content ≠ [] := by
      intro hnil
      simp [List.append_eq_nil_iff.mp hnil] at hcontent
    rw [blocksFrom, findingsToEnd_firstClose_body _ _ _ _ hbody,
      findingsToEnd_close]
    simp [ScanState.closing, hne, Finding.block?]
  have hflat := Block.isFlat_iff.mp (h _ hmem)
  simp [hcontent] at hflat

/-- As long as the first-close blocks are flat, the readings report the same
blocks. -/
theorem blocksFrom_eq_of_isFlat {s : ScanState} (hs : s.Flat)
    {text : List Char}
    (h : ∀ b ∈ blocksFrom .firstClose s text, b.isFlat = true) :
    blocksFrom .balanced s text = blocksFrom .firstClose s text := by
  induction text generalizing s with
  | nil => rw [blocksFrom_nil, blocksFrom_nil]
  | cons c cs ih =>
      rw [blocksFrom_cons] at h
      have htail := fun b hb => h b (List.mem_append_right _ hb)
      rcases hs.step_cases c with ⟨name, content, rfl, rfl⟩ |
        ⟨hstep, hflat, -⟩
      · -- The readings part here, but only over a body that never ends.
        have hunclosed : '}' ∉ cs :=
          not_mem_of_isFlat (List.mem_cons_self (a := '{')) htail
        have hunclosed' : '}' ∉ '{' :: cs := by simpa using hunclosed
        rw [blocksFrom, blocksFrom,
          findingsToEnd_unclosed _ _ _ _ _ hunclosed',
          findingsToEnd_unclosed _ _ _ _ _ hunclosed']
        rfl
      · rw [blocksFrom_cons, blocksFrom_cons, ScanState.blockAt?, hstep,
          ← ScanState.blockAt?, ih hflat htail]

/-- The readings agree on a sketch if its first-close blocks are flat. -/
theorem blocks_eq_of_isFlat {text : List Char}
    (h : ∀ b ∈ blocks .firstClose text, b.isFlat = true) :
    blocks .balanced text = blocks .firstClose text :=
  blocksFrom_eq_of_isFlat (s := .outside) trivial h

/-- **The balanced reading only drops blocks.**  It finds no block, no name
and no body that the first-close reading does not find, and keeps their
order; the same holds of tables. -/
theorem balanced_sublist_firstClose (text : String) :
    (blocks .balanced text.toList).Sublist
        (blocks .firstClose text.toList) ∧
      (tables .balanced text).Sublist (tables .firstClose text) := by
  have hblocks : (blocks .balanced text.toList).Sublist
      (blocks .firstClose text.toList) :=
    (blocks_balanced_sublist_filter text.toList).trans List.filter_sublist
  refine ⟨hblocks, ?_⟩
  rw [tables_eq_filterMap_blocks, tables_eq_filterMap_blocks]
  exact hblocks.filterMap _

example : blocks .balanced "A:{B:{x}} C:{y}".toList =
      [⟨['C'], ['y']⟩] ∧
    blocks .firstClose "A:{B:{x}} C:{y}".toList =
      [⟨['A'], r"B:{x".toList⟩, ⟨['C'], ['y']⟩] := by
  decide

/-- **When the readings agree.**  They report the same blocks exactly if no
brace opens in a first-close block, and then the same tables. -/
theorem balanced_eq_firstClose_iff (text : String) :
    (blocks .balanced text.toList = blocks .firstClose text.toList ↔
        ∀ b ∈ blocks .firstClose text.toList, '{' ∉ b.body) ∧
      ((∀ b ∈ blocks .firstClose text.toList, '{' ∉ b.body) →
        tables .balanced text = tables .firstClose text) := by
  have hequal : (∀ b ∈ blocks .firstClose text.toList, '{' ∉ b.body) →
      blocks .balanced text.toList = blocks .firstClose text.toList :=
    fun h => blocks_eq_of_isFlat fun b hb => Block.isFlat_iff.mpr (h b hb)
  refine ⟨⟨fun heq b hb => ?_, hequal⟩, fun h => ?_⟩
  · rw [← heq] at hb
    have hmem := (blocks_balanced_sublist_filter text.toList).subset hb
    exact Block.isFlat_iff.mp (List.mem_filter.mp hmem).2
  · rw [tables_eq_filterMap_blocks, tables_eq_filterMap_blocks, hequal h]

/-- Stray braces, an empty body and a body that does not end make no
difference. -/
theorem tables_eq_of_stray_braces :
    (∀ b ∈ blocks .firstClose
        r"}A:{} T:{shape: sql_table; a: b}} B:{".toList,
      '{' ∉ b.body) ∧
      tables .balanced
          r"}A:{} T:{shape: sql_table; a: b}} B:{" =
        tables .firstClose
          r"}A:{} T:{shape: sql_table; a: b}} B:{" :=
  ⟨by decide, (balanced_eq_firstClose_iff _).2 (by decide)⟩

end TableSketch
