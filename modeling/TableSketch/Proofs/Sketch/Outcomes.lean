import Mathlib.Data.List.Basic
import TableSketch.Proofs.Sketch.Modes
import TableSketch.Proofs.Sketch.Nesting

/-!
# What becomes of each block

A sketch has no errors, but nothing in it is lost in silence: a block that is
no table leaves a message.  `Block.Gives` says what a block gives and
`Block.RegionGives` what a region gives to a balanced reading; `Each` goes
through them from the front.  Behind the last region there may be a heading
whose region is never closed, and then there is a message about that too
(`GapGives`).

The scan itself only reports findings.  A finding gives a table or a message
(`Finding.tables`, `Finding.messages`), and each of the relations above says
that something is what certain findings give (`Block.gives_iff`,
`Block.regionGives_iff`, `GapGives.findingsToEnd`).  It remains to see which
findings there are: those of an outermost layout for the balanced reading, and
nothing but blocks for the first-close reading, which never takes a brace for
a nested one (`findings_firstClose`).

## Main results

* `findings_firstClose` — the first-close reading finds blocks only.
* `Layout.findings_eq_flatMap` — the balanced reading finds at most one thing
  in each region.
* `tables_and_messages_eq_iff` — the tables of a sketch and the messages about
  it, block by block.
-/

namespace TableSketch

/-- The messages about a sketch, in order. -/
def messages (mode : ScanMode) (text : String) : List String :=
  (remarks mode text).map Remark.message

/-! ## What blocks and regions give -/

/-- A block gives a table, or a message that it has no directive. -/
inductive Block.Gives (b : Block) : List Table → List String → Prop
  | table {t : Table} : b.table? = some t → b.Gives [t] []
  | shapeless : b.table? = none →
      b.Gives [] ["block " ++ Text.quoted (String.ofList b.name) ++
        " has no `shape: sql_table`, skipped"]

/-- An empty region gives nothing.  One in which a brace opens gives a message
that it is rejected, and any other is a block. -/
inductive Block.RegionGives (b : Block) : List Table → List String → Prop
  | empty : b.body = [] → b.RegionGives [] []
  | nested : '{' ∈ b.body →
      b.RegionGives [] ["nested block " ++
        Text.quoted (String.ofList b.name) ++ " rejected"]
  | flat {ts : List Table} {ms : List String} : b.body ≠ [] → '{' ∉ b.body →
      b.Gives ts ms → b.RegionGives ts ms

/-- What is said about a region that is never closed. -/
def unterminatedMessage (name : List Char) : String :=
  "unterminated block " ++ Text.quoted (String.ofList name) ++ " dropped"

/-- The gap behind the last region gives a message if there is a heading in
it: the first one, whose region is never closed. -/
inductive GapGives : List Char → List String → Prop
  | clear {gap : List Char} : Clear StartsHeading gap [] → GapGives gap []
  | unclosed {gap rest : List Char} {h : Heading} :
      Clear StartsHeading gap (h.text ++ rest) →
      (∀ content, IsBalanced content → ¬ (content ++ ['}']) <+: rest) →
      GapGives (gap ++ (h.text ++ rest)) [unterminatedMessage h.name]

/-- What blocks give one after the other, if `one` says what a single block
gives. -/
inductive Each (one : Block → List Table → List String → Prop) :
    List Block → List Table → List String → Prop
  | nil : Each one [] [] []
  | cons {b : Block} {bs : List Block} {ts ts' : List Table}
      {ms ms' : List String} :
      one b ts ms → Each one bs ts' ms' →
      Each one (b :: bs) (ts ++ ts') (ms ++ ms')

section Each

variable {one : Block → List Table → List String → Prop} {bs : List Block}
  {ts : List Table} {ms : List String}

/-- If it is settled what a single block gives, it is settled what all of them
give. -/
theorem each_iff {f : Block → List Table} {g : Block → List String}
    (hone : ∀ b ts ms, one b ts ms ↔ ts = f b ∧ ms = g b) :
    Each one bs ts ms ↔ ts = bs.flatMap f ∧ ms = bs.flatMap g := by
  constructor
  · intro h
    induction h with
    | nil => exact ⟨rfl, rfl⟩
    | cons hb _ ih =>
        obtain ⟨rfl, rfl⟩ := (hone _ _ _).mp hb
        obtain ⟨rfl, rfl⟩ := ih
        exact ⟨List.flatMap_cons.symm, List.flatMap_cons.symm⟩
  · rintro ⟨rfl, rfl⟩
    induction bs with
    | nil => exact .nil
    | cons b bs ih =>
        rw [List.flatMap_cons, List.flatMap_cons]
        exact .cons ((hone _ _ _).mpr ⟨rfl, rfl⟩) ih

/-- If a single block gives one thing, as many things are given as there are
blocks. -/
theorem Each.length_add_length (h : Each one bs ts ms)
    (hone : ∀ b ts ms, one b ts ms → ts.length + ms.length = 1) :
    ts.length + ms.length = bs.length := by
  induction h with
  | nil => rfl
  | cons hb _ ih =>
      have hlength := hone _ _ _ hb
      simp only [List.length_append, List.length_cons]
      omega

/-- What holds of the messages about a single block holds of all of them. -/
theorem Each.forall_mem_messages {P : String → Prop} (h : Each one bs ts ms)
    (hone : ∀ b ts ms, one b ts ms → ∀ m ∈ ms, P m) : ∀ m ∈ ms, P m := by
  induction h with
  | nil => exact fun m hm => nomatch hm
  | cons hb _ ih =>
      intro m hm
      rcases List.mem_append.mp hm with hm | hm
      · exact hone _ _ _ hb m hm
      · exact ih m hm

end Each

/-- A block gives one thing. -/
theorem Block.Gives.length_add_length {b : Block} {ts : List Table}
    {ms : List String} (h : b.Gives ts ms) : ts.length + ms.length = 1 := by
  cases h with
  | table => rfl
  | shapeless => rfl

theorem head?_toList_append {s : String} {c : Char}
    (h : s.toList.head? = some c) (t : String) :
    (s ++ t).toList.head? = some c := by
  rw [String.toList_append, List.head?_append, h]
  rfl

/-- Messages with another first letter are different. -/
theorem append_ne_unterminatedMessage {s t u : String} {c : Char}
    (hs : s.toList.head? = some c) (hc : c ≠ 'u') (name : List Char) :
    s ++ t ++ u ≠ unterminatedMessage name := by
  intro heq
  have hfirst : (s ++ t ++ u).toList.head? = some c :=
    head?_toList_append (head?_toList_append hs t) u
  have hlast : (unterminatedMessage name).toList.head? = some 'u' :=
    head?_toList_append (head?_toList_append (by decide) _) _
  rw [heq, hlast] at hfirst
  exact hc (Option.some.inj hfirst).symm

/-- The messages about regions that are closed do not say that they are not. -/
theorem Block.RegionGives.ne_unterminatedMessage {b : Block} {ts : List Table}
    {ms : List String} (h : b.RegionGives ts ms) :
    ∀ m ∈ ms, ∀ name, m ≠ unterminatedMessage name := by
  intro m hm name
  cases h with
  | empty => cases hm
  | nested =>
      rw [List.mem_singleton.mp hm]
      exact append_ne_unterminatedMessage (c := 'n') (by decide) (by decide)
        name
  | flat _ _ hgives =>
      cases hgives with
      | table => cases hm
      | shapeless =>
          rw [List.mem_singleton.mp hm]
          exact append_ne_unterminatedMessage (c := 'b') (by decide)
            (by decide) name

/-! ## What findings give -/

namespace Finding

/-- The table of a finding, if it gives one. -/
def tables (f : Finding) : List Table := f.outcome.table?.toList

/-- The message of a finding, if it gives one. -/
def messages (f : Finding) : List String :=
  (f.outcome.remark?.map Remark.message).toList

end Finding

theorem tables_eq_flatMap (mode : ScanMode) (text : String) :
    tables mode text = (findings mode text.toList).flatMap Finding.tables := by
  rw [tables, outcomes, List.filterMap_map, List.filterMap_eq_flatMap_toList]
  rfl

theorem messages_eq_flatMap (mode : ScanMode) (text : String) :
    messages mode text =
      (findings mode text.toList).flatMap Finding.messages := by
  rw [messages, remarks, outcomes, List.filterMap_map, List.map_filterMap,
    List.filterMap_eq_flatMap_toList]
  rfl

/-- A block gives what its finding gives. -/
theorem Block.gives_iff {b : Block} {ts : List Table} {ms : List String} :
    b.Gives ts ms ↔
      ts = (Finding.block b).tables ∧ ms = (Finding.block b).messages := by
  have houtcome : (Finding.block b).outcome = b.outcome := rfl
  rw [Finding.tables, Finding.messages, houtcome, Block.outcome]
  constructor
  · rintro (htable | htable)
    · rw [htable]
      exact ⟨rfl, rfl⟩
    · rw [htable]
      exact ⟨rfl, rfl⟩
  · rintro ⟨rfl, rfl⟩
    cases htable : b.table? with
    | some t => exact .table htable
    | none => exact .shapeless htable

/-! ## The first-close reading -/

namespace ScanState

/-- No brace has been taken for a nested one. -/
def Unnested : ScanState → Prop
  | .body _ _ _ nested => nested = false
  | _ => True

theorem Flat.unnested {s : ScanState} (h : s.Flat) : s.Unnested := by
  cases s with
  | body name content depth nested => exact h.2.1
  | _ => trivial

/-- One character of a first-close reading: whatever it completes is a
block. -/
theorem Unnested.step {s : ScanState} (h : s.Unnested) (c : Char) :
    (s.step .firstClose c).1.Unnested ∧
      ∀ f ∈ (s.step .firstClose c).2, ∃ b, f = .block b := by
  rcases s.inBody_cases with hbody | ⟨name, content, depth, nested, rfl⟩
  · obtain ⟨hstep, hflat⟩ := step_of_not_inBody hbody c
    refine ⟨hflat.unnested, fun f hf => ?_⟩
    rw [hstep .firstClose] at hf
    cases hf
  · obtain rfl : nested = false := h
    by_cases hc : c = '}'
    · subst hc
      cases depth with
      | zero =>
          refine ⟨trivial, fun f hf => ?_⟩
          cases content with
          | nil => cases hf
          | cons d ds => exact ⟨_, (Option.some.inj hf).symm⟩
      | succ d => exact ⟨rfl, fun f hf => nomatch hf⟩
    · simp [ScanState.step, hc, Unnested]

/-- A first-close reading to the end of a text. -/
theorem Unnested.exists_eq_block {s : ScanState} (h : s.Unnested)
    (text : List Char) :
    ∀ f ∈ findingsToEnd .firstClose s text, ∃ b, f = .block b := by
  induction text generalizing s with
  | nil =>
      have hend : findingsToEnd .firstClose s [] = [] := by cases s <;> rfl
      rw [hend]
      exact fun f hf => nomatch hf
  | cons c cs ih =>
      obtain ⟨hnext, hblock⟩ := h.step c
      intro f hf
      rw [findingsToEnd_cons] at hf
      rcases List.mem_append.mp hf with hf | hf
      · exact hblock f (Option.mem_toList.mp hf)
      · exact ih hnext f hf

end ScanState

/-- **The first-close reading finds blocks only.** -/
theorem findings_firstClose (text : List Char) :
    findings .firstClose text = (blocks .firstClose text).map .block := by
  have hblocks : ∀ f ∈ findings .firstClose text, ∃ b, f = .block b :=
    ScanState.Unnested.exists_eq_block (s := .outside) trivial text
  have hself : ∀ f ∈ findings .firstClose text,
      f.block?.map Finding.block = some f := by
    intro f hf
    obtain ⟨b, rfl⟩ := hblocks f hf
    rfl
  rw [blocks, List.map_filterMap, List.filterMap_congr hself,
    List.filterMap_some]

/-! ## The balanced reading -/

/-- What the balanced reading finds in a region. -/
def Block.regionFinding? (b : Block) : Option Finding :=
  if '{' ∈ b.body then some (.nested b.name)
  else if b.body = [] then none
  else some (.block b)

/-- The findings of a layout, region by region. -/
theorem Layout.findings_eq_flatMap (l : Layout IsBalanced) :
    l.findings = l.blocks.flatMap fun b => b.regionFinding?.toList := by
  induction l with
  | last gap => rfl
  | block gap e rest ih =>
      rw [findings, ih, blocks, List.flatMap_cons]
      rfl

/-- A region gives what its finding gives. -/
theorem Block.regionGives_iff {b : Block} {ts : List Table}
    {ms : List String} :
    b.RegionGives ts ms ↔
      ts = b.regionFinding?.toList.flatMap Finding.tables ∧
        ms = b.regionFinding?.toList.flatMap Finding.messages := by
  rw [regionFinding?]
  by_cases hopen : '{' ∈ b.body
  · have hne : b.body ≠ [] := List.ne_nil_of_mem hopen
    rw [if_pos hopen]
    constructor
    · rintro (hempty | _ | ⟨_, hflat, _⟩)
      · exact absurd hempty hne
      · exact ⟨rfl, rfl⟩
      · exact absurd hopen hflat
    · rintro ⟨rfl, rfl⟩
      exact .nested hopen
  · rw [if_neg hopen]
    by_cases hempty : b.body = []
    · rw [if_pos hempty]
      constructor
      · rintro (_ | hnested | ⟨hne, _, _⟩)
        · exact ⟨rfl, rfl⟩
        · exact absurd hnested hopen
        · exact absurd hempty hne
      · rintro ⟨rfl, rfl⟩
        exact .empty hempty
    · rw [if_neg hempty, Option.toList_some, List.flatMap_singleton,
        List.flatMap_singleton, ← gives_iff]
      constructor
      · rintro (hnil | hnested | ⟨_, _, hgives⟩)
        · exact absurd hnil hempty
        · exact absurd hnested hopen
        · exact hgives
      · exact .flat hempty hopen

/-- The gap behind the last region gives no table, and at most one message:
that of what is found in it. -/
theorem GapGives.findingsToEnd {gap : List Char} {ms : List String}
    (h : GapGives gap ms) :
    (findingsToEnd .balanced .outside gap).flatMap Finding.tables = [] ∧
      (findingsToEnd .balanced .outside gap).flatMap Finding.messages = ms := by
  cases h with
  | clear hclear =>
      rw [findingsToEnd_clear .balanced hclear]
      exact ⟨rfl, rfl⟩
  | unclosed hclear hrest =>
      rw [findingsToEnd_unterminated hclear hrest]
      exact ⟨rfl, rfl⟩

theorem Ends.exists_gapGives {before gap : List Char} (h : Ends before gap) :
    ∃ ms, GapGives gap ms := by
  cases h with
  | clear hclear => exact ⟨_, .clear hclear⟩
  | unclosed hclear _ hrest => exact ⟨_, .unclosed hclear hrest⟩

/-- **What an outermost layout gives**: what its regions give, and a message
about its last gap if need be. -/
theorem Layout.IsOutermost.each_regionGives_iff {l : Layout IsBalanced}
    (h : l.IsOutermost) {text : String} (htext : l.text = text.toList)
    {last : List String} (hlast : GapGives l.lastGap last) {ts : List Table}
    {closed : List String} :
    Each Block.RegionGives l.blocks ts closed ↔
      tables .balanced text = ts ∧
        messages .balanced text = closed ++ last := by
  obtain ⟨hnone, hlast⟩ := hlast.findingsToEnd
  have hfindings : TableSketch.findings .balanced text.toList =
      (l.blocks.flatMap fun b => b.regionFinding?.toList) ++
        TableSketch.findingsToEnd .balanced .outside l.lastGap := by
    rw [← htext, ← l.findings_eq_flatMap]
    exact findingsToEnd_layout h
  rw [each_iff @Block.regionGives_iff, tables_eq_flatMap,
    messages_eq_flatMap, hfindings, List.flatMap_append, List.flatMap_append,
    hnone, hlast, List.append_nil, List.append_left_inj, List.flatMap_assoc,
    List.flatMap_assoc, eq_comm (a := ts), eq_comm (a := closed)]

/-! ## Whole sketches -/

/-- What the blocks of a first-close reading give. -/
theorem each_firstClose_iff (text : String) (ts : List Table)
    (ms : List String) :
    Each Block.Gives (blocks .firstClose text.toList) ts ms ↔
      tables .firstClose text = ts ∧ messages .firstClose text = ms := by
  rw [each_iff @Block.gives_iff, tables_eq_flatMap, messages_eq_flatMap,
    findings_firstClose, List.flatMap_map, List.flatMap_map,
    eq_comm (a := ts), eq_comm (a := ms)]

/-- Every text has an outermost layout that accounts for what a balanced
reading gives. -/
theorem exists_each_balanced (text : String) :
    ∃ (l : Layout IsBalanced) (closed last : List String),
      l.text = text.toList ∧ l.IsOutermost ∧
        Each Block.RegionGives l.blocks (tables .balanced text) closed ∧
        GapGives l.lastGap last ∧
        messages .balanced text = closed ++ last := by
  obtain ⟨l, htext, hl⟩ := exists_outermost text.toList [] not_endsInWord_nil
  have houter : l.IsOutermost := hl
  obtain ⟨before, hends⟩ := houter.lastGap
  obtain ⟨last, hlast⟩ := hends.exists_gapGives
  obtain ⟨ts, closed, heach⟩ :
      ∃ ts closed, Each Block.RegionGives l.blocks ts closed :=
    ⟨_, _, (each_iff @Block.regionGives_iff).mpr ⟨rfl, rfl⟩⟩
  obtain ⟨rfl, hmessages⟩ := (houter.each_regionGives_iff htext hlast).mp heach
  exact ⟨l, closed, last, htext, houter, heach, hlast, hmessages⟩

/-- That a region is never closed is said last, if at all. -/
theorem unterminatedMessage_not_mem_dropLast {bs : List Block}
    {ts : List Table} {closed last : List String} {gap : List Char}
    (hclosed : Each Block.RegionGives bs ts closed)
    (hlast : GapGives gap last) (name : List Char) :
    unterminatedMessage name ∉ (closed ++ last).dropLast := by
  have hother : unterminatedMessage name ∉ closed := fun hmem =>
    hclosed.forall_mem_messages @Block.RegionGives.ne_unterminatedMessage
      _ hmem name rfl
  cases hlast with
  | clear =>
      rw [List.append_nil]
      exact fun hmem => hother (List.dropLast_subset _ hmem)
  | unclosed => rwa [List.dropLast_concat]

/-- **Every block has one visible outcome.**  In a first-close reading every
block gives, in order, a table or the message that it has no directive, so
that there are as many tables and messages as blocks.  In a balanced reading
every region of an outermost layout gives nothing if it is empty, the message
that it is rejected if a brace opens in it, and otherwise what a block gives.
If the gap behind the last region holds a heading, the region of that one is
never closed; a message about it comes last, and nowhere else. -/
theorem tables_and_messages_eq_iff (text : String) :
    (∀ ts ms,
      tables .firstClose text = ts ∧ messages .firstClose text = ms ↔
        Each Block.Gives (blocks .firstClose text.toList) ts ms) ∧
    (tables .firstClose text).length + (messages .firstClose text).length =
      (blocks .firstClose text.toList).length ∧
    (∀ ts ms,
      tables .balanced text = ts ∧ messages .balanced text = ms ↔
        ∃ (l : Layout IsBalanced) (closed last : List String),
          l.text = text.toList ∧ l.IsOutermost ∧
          Each Block.RegionGives l.blocks ts closed ∧
          GapGives l.lastGap last ∧ ms = closed ++ last) ∧
    ∀ name, unterminatedMessage name ∉ (messages .balanced text).dropLast := by
  have hfirst := (each_firstClose_iff text _ _).mpr ⟨rfl, rfl⟩
  obtain ⟨l, closed, last, htext, houter, heach, hlast, hmessages⟩ :=
    exists_each_balanced text
  refine ⟨fun ts ms => (each_firstClose_iff text ts ms).symm,
    hfirst.length_add_length @Block.Gives.length_add_length,
    fun ts ms => ⟨?_, ?_⟩, fun name => ?_⟩
  · rintro ⟨rfl, rfl⟩
    exact ⟨l, closed, last, htext, houter, heach, hlast, hmessages⟩
  · rintro ⟨l', closed', last', htext', houter', heach', hlast', rfl⟩
    exact (houter'.each_regionGives_iff htext' hlast').mp heach'
  · rw [hmessages]
    exact unterminatedMessage_not_mem_dropLast heach hlast name

example :
    let text := "A:{x} B:{C:{y}} D:{} " ++
      r"T:{shape: sql_table} U:{"
    tables .balanced text = [⟨"T", []⟩] ∧
      messages .balanced text =
        ["block 'A' has no `shape: sql_table`, skipped",
          "nested block 'B' rejected", "unterminated block 'U' dropped"] := by
  decide +kernel

end TableSketch
