import TableSketch.Proofs.Sketch.Reading

/-!
# Headings in a text

A heading is a word, blanks, a colon, blanks and an opening brace.  `Heading`
is that text with its parts, so it carries its own well-formedness.

Headings can be told apart: a text begins with at most one of them
(`Heading.text_append_inj`), and one that begins inside another one ends at
the same brace (`Heading.rest_eq_of_inside`), for it can only begin inside the
name.

The scan keeps no text while it looks for a heading, only the state it is in.
`Pending` gives the text back: `Pending s u` says that `u` is the beginning of
a heading that the scan is in the middle of in state `s`.  A character either
continues `u` or breaks it off, and then no heading begins inside `u`
(`Pending.continues`).  By induction on the text the scan therefore stops at
the first heading (`Pending.search`).

## Main results

* `search_outside` — from `outside`, a scan either meets no heading and
  reports nothing, or goes on in the body of the first heading.
* `findingsToEnd_heading` — read the other way: behind a gap in which no
  heading begins, a heading leads into its body.
-/

namespace TableSketch

/-! ## Runs of characters -/

section Run

variable {p : Char → Bool} {a w : List Char} {x : Char}

theorem head_cons (hx : p x = false) : ∀ c ∈ (x :: w).head?, p c = false := by
  rintro c ⟨⟩
  exact hx

theorem takeWhile_run (ha : ∀ c ∈ a, p c = true)
    (hw : ∀ c ∈ w.head?, p c = false) : (a ++ w).takeWhile p = a := by
  rw [List.takeWhile_append_of_pos ha]
  cases w with
  | nil => simp
  | cons c cs => simp [hw c rfl]

theorem dropWhile_run (ha : ∀ c ∈ a, p c = true)
    (hw : ∀ c ∈ w.head?, p c = false) : (a ++ w).dropWhile p = w := by
  rw [List.dropWhile_append_of_pos ha]
  cases w with
  | nil => rfl
  | cons c cs => simp [hw c rfl]

theorem forall_mem_concat (ha : ∀ c ∈ a, p c = true) (hx : p x = true) :
    ∀ c ∈ a ++ [x], p c = true := by
  intro c hc
  rcases List.mem_append.mp hc with hc | hc
  · exact ha c hc
  · exact (List.mem_singleton.mp hc) ▸ hx

theorem head_append_of_ne_nil (hw : w ≠ []) (hp : ∀ c ∈ w, p c = false) :
    ∀ c ∈ (w ++ a).head?, p c = false := by
  obtain ⟨d, ds, rfl⟩ := List.exists_cons_of_ne_nil hw
  rintro c ⟨⟩
  exact hp d (by simp)

/-- A text that goes on with `x` behind a run begins with a character of the
run or with `x`. -/
theorem head_of_dropWhile (h : w.dropWhile p = x :: a) :
    ∃ c w', w = c :: w' ∧ (p c = true ∨ c = x) := by
  cases w with
  | nil => simp at h
  | cons c w' =>
      by_cases hc : p c = true
      · exact ⟨c, w', rfl, Or.inl hc⟩
      · rw [List.dropWhile_cons, if_neg hc] at h
        exact ⟨c, w', rfl, Or.inr (List.cons.inj h).1⟩

end Run

/-- The code points of names. -/
theorem toNat_of_isWordChar {c : Char} (h : isWordChar c = true) :
    (48 ≤ c.toNat ∧ c.toNat ≤ 57) ∨ (65 ≤ c.toNat ∧ c.toNat ≤ 90) ∨
      c.toNat = 95 ∨ (97 ≤ c.toNat ∧ c.toNat ≤ 122) := by
  rw [isWordChar, Bool.or_eq_true, beq_iff_eq] at h
  rcases h with h | rfl
  · change (decide (65 ≤ c.val ∧ c.val ≤ 90) ||
      (decide (97 ≤ c.val) && decide (c.val ≤ 122)) ||
      (decide (48 ≤ c.val) && decide (c.val ≤ 57))) = true at h
    simp only [Bool.or_eq_true, Bool.and_eq_true, decide_eq_true_eq,
      UInt32.le_iff_toNat_le] at h
    change ((65 ≤ c.toNat ∧ c.toNat ≤ 90) ∨ (97 ≤ c.toNat ∧ c.toNat ≤ 122)) ∨
      (48 ≤ c.toNat ∧ c.toNat ≤ 57) at h
    omega
  · decide

/-- No character of a name is a blank. -/
theorem isBlank_of_isWordChar {c : Char} (h : isWordChar c = true) :
    Text.isBlank c = false := by
  have hrange := toNat_of_isWordChar h
  simp only [Text.isBlank, Bool.or_eq_false_iff, Bool.and_eq_false_iff,
    beq_eq_false_iff_ne, decide_eq_false_iff_not]
  omega

theorem isWordChar_of_isBlank {c : Char} (h : Text.isBlank c = true) :
    isWordChar c = false := by
  by_cases hword : isWordChar c = true
  · rw [isBlank_of_isWordChar hword] at h
    cases h
  · simpa using hword

/-! ## Headings -/

/-- A heading, cut into its parts. -/
@[ext]
structure Heading where
  name : List Char
  /-- The blanks before the colon. -/
  before : List Char
  /-- The blanks behind the colon. -/
  behind : List Char
  name_ne_nil : name ≠ []
  name_word : ∀ c ∈ name, isWordChar c = true
  before_blank : ∀ c ∈ before, Text.isBlank c = true
  behind_blank : ∀ c ∈ behind, Text.isBlank c = true

namespace Heading

/-- A heading without its name. -/
def tail (h : Heading) : List Char := h.before ++ ':' :: (h.behind ++ ['{'])

/-- The heading as it is written. -/
def text (h : Heading) : List Char := h.name ++ h.tail

theorem text_eq_cons (h : Heading) :
    ∃ c cs, h.text = c :: cs ∧ isWordChar c = true := by
  obtain ⟨c, cs, hname⟩ := List.exists_cons_of_ne_nil h.name_ne_nil
  exact ⟨c, cs ++ h.tail, by rw [text, hname]; rfl,
    h.name_word c (by simp [hname])⟩

theorem tail_not_word (h : Heading) : ∀ c ∈ h.tail, isWordChar c = false := by
  intro c hc
  simp only [tail, List.mem_append, List.mem_cons, List.not_mem_nil,
    or_false] at hc
  rcases hc with hc | rfl | hc | rfl
  · exact isWordChar_of_isBlank (h.before_blank c hc)
  · decide
  · exact isWordChar_of_isBlank (h.behind_blank c hc)
  · decide

theorem tail_append (h : Heading) (r : List Char) :
    h.tail ++ r = h.before ++ ':' :: (h.behind ++ '{' :: r) := by
  simp [tail]

/-- The part behind the name begins with the colon or with a blank. -/
theorem tail_append_eq_cons (h : Heading) (r : List Char) :
    ∃ x z, h.tail ++ r = x :: z ∧ (x = ':' ∨ Text.isBlank x = true) := by
  rw [tail]
  cases hbefore : h.before with
  | nil => exact ⟨':', _, rfl, Or.inl rfl⟩
  | cons c cs =>
      exact ⟨c, _, rfl, Or.inr (h.before_blank c (by simp [hbefore]))⟩

theorem head_tail_append (h : Heading) (r : List Char) :
    ∀ c ∈ (h.tail ++ r).head?, isWordChar c = false := by
  obtain ⟨x, z, htail, hx⟩ := h.tail_append_eq_cons r
  rw [htail]
  rintro c ⟨⟩
  rcases hx with rfl | hx
  · decide
  · exact isWordChar_of_isBlank hx

theorem takeWhile_word (h : Heading) (r : List Char) :
    (h.text ++ r).takeWhile isWordChar = h.name := by
  rw [text, List.append_assoc]
  exact takeWhile_run h.name_word (h.head_tail_append r)

theorem dropWhile_word (h : Heading) (r : List Char) :
    (h.text ++ r).dropWhile isWordChar = h.tail ++ r := by
  rw [text, List.append_assoc]
  exact dropWhile_run h.name_word (h.head_tail_append r)

theorem dropWhile_before (h : Heading) (r : List Char) :
    (h.tail ++ r).dropWhile Text.isBlank = ':' :: (h.behind ++ '{' :: r) := by
  rw [tail_append, dropWhile_run h.before_blank (head_cons (by decide))]

theorem dropWhile_behind (h : Heading) (r : List Char) :
    (h.behind ++ '{' :: r).dropWhile Text.isBlank = '{' :: r :=
  dropWhile_run h.behind_blank (head_cons (by decide))

theorem tail_append_inj {h h' : Heading} {r r' : List Char}
    (heq : h.tail ++ r = h'.tail ++ r') :
    h.before = h'.before ∧ h.behind = h'.behind ∧ r = r' := by
  have hbefore := congrArg (List.takeWhile Text.isBlank) heq
  have hcolon := congrArg (List.dropWhile Text.isBlank) heq
  rw [dropWhile_before, dropWhile_before] at hcolon
  have hrest := (List.cons.inj hcolon).2
  have hbehind := congrArg (List.takeWhile Text.isBlank) hrest
  have hbrace := congrArg (List.dropWhile Text.isBlank) hrest
  rw [dropWhile_behind, dropWhile_behind] at hbrace
  rw [tail_append, tail_append,
    takeWhile_run h.before_blank (head_cons (by decide)),
    takeWhile_run h'.before_blank (head_cons (by decide))] at hbefore
  rw [takeWhile_run h.behind_blank (head_cons (by decide)),
    takeWhile_run h'.behind_blank (head_cons (by decide))] at hbehind
  exact ⟨hbefore, hbehind, (List.cons.inj hbrace).2⟩

/-- A text begins with at most one heading. -/
theorem text_append_inj {h h' : Heading} {r r' : List Char}
    (heq : h.text ++ r = h'.text ++ r') : h = h' ∧ r = r' := by
  have hname := congrArg (List.takeWhile isWordChar) heq
  have htail := congrArg (List.dropWhile isWordChar) heq
  rw [takeWhile_word, takeWhile_word] at hname
  rw [dropWhile_word, dropWhile_word] at htail
  obtain ⟨hbefore, hbehind, hrest⟩ := tail_append_inj htail
  exact ⟨Heading.ext hname hbefore hbehind, hrest⟩

/-- Where word characters are followed by others only, a heading begins among
the word characters. -/
theorem begins_in_word {h : Heading} {n w a b v r : List Char}
    (hn : ∀ c ∈ n, isWordChar c = true) (hw : ∀ c ∈ w, isWordChar c = false)
    (hsplit : n ++ w = a ++ b) (hb : b ≠ []) (heq : h.text ++ r = b ++ v) :
    ∃ m, b = m ++ w ∧ ∀ c ∈ m, isWordChar c = true := by
  rcases List.append_eq_append_iff.mp hsplit with
    ⟨as, -, hwb⟩ | ⟨m, hnm, hbm⟩
  · obtain ⟨c, cs, htext, hword⟩ := h.text_eq_cons
    obtain ⟨d, ds, rfl⟩ := List.exists_cons_of_ne_nil hb
    rw [htext, List.cons_append, List.cons_append] at heq
    obtain rfl : c = d := (List.cons.inj heq).1
    rw [hw c (by simp [hwb])] at hword
    cases hword
  · exact ⟨m, hbm, fun c hc => hn c (by simp [hnm, hc])⟩

/-- A heading that begins inside another one ends with it. -/
theorem rest_eq_of_inside {h h' : Heading} {a b r rest : List Char}
    (hsplit : h'.text = a ++ b) (hb : b ≠ [])
    (heq : h.text ++ r = b ++ rest) : r = rest := by
  obtain ⟨m, rfl, hm⟩ :=
    begins_in_word h'.name_word h'.tail_not_word hsplit hb heq
  have htail := congrArg (List.dropWhile isWordChar) heq
  rw [dropWhile_word, List.append_assoc,
    dropWhile_run hm (h'.head_tail_append rest)] at htail
  exact (tail_append_inj htail).2.2

end Heading

/-! ## Gaps -/

/-- The text goes on with a heading. -/
def StartsHeading (text : List Char) : Prop :=
  ∃ (h : Heading) (rest : List Char), text = h.text ++ rest

theorem StartsHeading.isWordChar_head {c : Char} {cs : List Char}
    (h : StartsHeading (c :: cs)) : isWordChar c = true := by
  obtain ⟨h, rest, heq⟩ := h
  obtain ⟨d, ds, htext, hd⟩ := h.text_eq_cons
  rw [htext] at heq
  exact (List.cons.inj heq).1 ▸ hd

/-- At no position inside `gap` does the text go on as `P` says, `rest` being
what stands behind the gap. -/
def Clear (P : List Char → Prop) (gap rest : List Char) : Prop :=
  ∀ a b, gap = a ++ b → b ≠ [] → ¬ P (b ++ rest)

/-- The text ends in the middle of a word, or with one. -/
def EndsInWord (text : List Char) : Prop :=
  ∃ c ∈ text.getLast?, isWordChar c = true

theorem not_endsInWord_nil : ¬ EndsInWord [] := by
  rintro ⟨c, ⟨⟩, -⟩

theorem endsInWord_concat {text : List Char} {c : Char} :
    EndsInWord (text ++ [c]) ↔ isWordChar c = true := by
  simp [EndsInWord]

theorem not_endsInWord_append {a b : List Char} (ha : ¬ EndsInWord a)
    (hb : ¬ EndsInWord b) : ¬ EndsInWord (a ++ b) := by
  rcases List.eq_nil_or_concat b with rfl | ⟨b', c, rfl⟩
  · rwa [List.append_nil]
  · rw [List.concat_eq_append, endsInWord_concat] at hb
    rwa [List.concat_eq_append, ← List.append_assoc, endsInWord_concat]

section Clear

variable {P : List Char → Prop} {gap gap' rest rest' : List Char}

theorem clear_nil : Clear P [] rest := by
  intro a b hsplit hb
  exact absurd (List.append_eq_nil_iff.mp hsplit.symm).2 hb

theorem clear_singleton {c : Char} (h : ¬ P (c :: rest)) :
    Clear P [c] rest := by
  intro a b hsplit hb
  rcases List.singleton_eq_append_iff.mp hsplit with ⟨-, rfl⟩ | ⟨-, rfl⟩
  · exact h
  · exact absurd rfl hb

theorem Clear.mono {Q : List Char → Prop} (h : Clear P gap rest)
    (hPQ : ∀ t, Q t → P t) : Clear Q gap rest :=
  fun a b hsplit hb hQ => h a b hsplit hb (hPQ _ hQ)

theorem Clear.append (h : Clear P gap (gap' ++ rest))
    (h' : Clear P gap' rest) : Clear P (gap ++ gap') rest := by
  intro a b hsplit hb
  rcases List.append_eq_append_iff.mp hsplit with
    ⟨as, -, hgap'⟩ | ⟨bs, hgap, rfl⟩
  · exact h' as b hgap' hb
  · rw [List.append_assoc]
    by_cases hbs : bs = []
    · subst hbs
      exact h' [] gap' rfl hb
    · exact h a bs hgap hbs

/-- The gap before the first place where `P` holds is as long as it is. -/
theorem Clear.unique (h : Clear P gap rest) (h' : Clear P gap' rest')
    (hrest : P rest) (hrest' : P rest')
    (heq : gap ++ rest = gap' ++ rest') : gap = gap' ∧ rest = rest' := by
  rcases List.append_eq_append_iff.mp heq with
    ⟨as, rfl, rfl⟩ | ⟨bs, rfl, rfl⟩
  · by_cases has : as = []
    · subst has
      simp
    · exact absurd hrest (h' gap as rfl has)
  · by_cases hbs : bs = []
    · subst hbs
      simp
    · exact absurd hrest' (h gap' bs rfl hbs)

end Clear

/-! ## The beginning of a heading -/

namespace ScanState

/-- The character goes on with the heading that the scan is in the middle
of. -/
def Continues : ScanState → Char → Prop
  | .outside, c => isWordChar c = true
  | .word _, c => isWordChar c = true ∨ c = ':' ∨ Text.isBlank c = true
  | .named _, c => c = ':' ∨ Text.isBlank c = true
  | .colon _, c => c = '{' ∨ Text.isBlank c = true
  | .body _ _ _ _, _ => False

end ScanState

/-- `Pending s u`: in state `s` the scan is in the middle of a heading that
begins with `u`. -/
inductive Pending : ScanState → List Char → Prop
  | outside : Pending .outside []
  | word {n : List Char} (hne : n ≠ [])
      (hn : ∀ c ∈ n, isWordChar c = true) : Pending (.word n.reverse) n
  | named {n w : List Char} (hne : n ≠ [])
      (hn : ∀ c ∈ n, isWordChar c = true) (hw : w ≠ [])
      (hblank : ∀ c ∈ w, Text.isBlank c = true) :
      Pending (.named n.reverse) (n ++ w)
  | colon {n w w' : List Char} (hne : n ≠ [])
      (hn : ∀ c ∈ n, isWordChar c = true)
      (hblank : ∀ c ∈ w, Text.isBlank c = true)
      (hblank' : ∀ c ∈ w', Text.isBlank c = true) :
      Pending (.colon n.reverse) (n ++ (w ++ ':' :: w'))

namespace Pending

variable {s : ScanState} {u : List Char} {c : Char}

/-- **No heading hides in the beginning of another one.**  A heading that
begins inside `u` needs a next character, and one that continues `u`. -/
theorem continues (hp : Pending s u) {h : Heading} {a b v r : List Char}
    (hsplit : u = a ++ b) (hb : b ≠ []) (heq : h.text ++ r = b ++ v) :
    ∃ c v', v = c :: v' ∧ s.Continues c := by
  have hdrop := congrArg (List.dropWhile isWordChar) heq
  rw [h.dropWhile_word] at hdrop
  cases hp with
  | outside => exact absurd (List.append_eq_nil_iff.mp hsplit.symm).2 hb
  | @word n hne hn =>
      obtain ⟨m, rfl, hm⟩ := Heading.begins_in_word (w := []) hn (by simp)
        (by simpa using hsplit) hb heq
      obtain ⟨x, z, htail, hx⟩ := h.tail_append_eq_cons r
      rw [List.append_nil, List.dropWhile_append_of_pos hm, htail] at hdrop
      obtain ⟨c, v', rfl, hc⟩ := head_of_dropWhile hdrop.symm
      refine ⟨c, v', rfl, hc.imp id ?_⟩
      rintro rfl
      exact hx
  | @named n w hne hn hw hblank =>
      have hw' : ∀ c ∈ w, isWordChar c = false :=
        fun c hc => isWordChar_of_isBlank (hblank c hc)
      obtain ⟨m, rfl, hm⟩ := Heading.begins_in_word hn hw' hsplit hb heq
      rw [List.append_assoc, dropWhile_run hm (head_append_of_ne_nil hw hw')]
        at hdrop
      have hcolon := congrArg (List.dropWhile Text.isBlank) hdrop
      rw [h.dropWhile_before, List.dropWhile_append_of_pos hblank] at hcolon
      obtain ⟨c, v', rfl, hc⟩ := head_of_dropWhile hcolon.symm
      exact ⟨c, v', rfl, hc.symm⟩
  | @colon n w w' hne hn hblank hblank' =>
      have hw : ∀ c ∈ w ++ ':' :: w', isWordChar c = false := by
        intro c hc
        rcases List.mem_append.mp hc with hc | hc
        · exact isWordChar_of_isBlank (hblank c hc)
        · rcases List.mem_cons.mp hc with rfl | hc
          · decide
          · exact isWordChar_of_isBlank (hblank' c hc)
      obtain ⟨m, rfl, hm⟩ := Heading.begins_in_word hn hw hsplit hb heq
      rw [List.append_assoc, dropWhile_run hm
        (head_append_of_ne_nil (by simp) hw), List.append_assoc,
        List.cons_append] at hdrop
      have hcolon := congrArg (List.dropWhile Text.isBlank) hdrop
      rw [h.dropWhile_before, dropWhile_run hblank (head_cons (by decide))]
        at hcolon
      have hbrace := congrArg (List.dropWhile Text.isBlank)
        (List.cons.inj hcolon).2
      rw [h.dropWhile_behind, List.dropWhile_append_of_pos hblank'] at hbrace
      obtain ⟨c, v', rfl, hc⟩ := head_of_dropWhile hbrace.symm
      exact ⟨c, v', rfl, hc.symm⟩

/-- A character that goes on with a heading completes it or leaves the scan in
the middle of it. -/
theorem step_continues (hp : Pending s u) (hc : s.Continues c)
    (mode : ScanMode) :
    (∃ h : Heading, u ++ [c] = h.text ∧
        s.step mode c = (.body h.name.reverse [] 0 false, none)) ∨
      ∃ s', s.step mode c = (s', none) ∧ Pending s' (u ++ [c]) := by
  cases hp with
  | outside =>
      have hword : isWordChar c = true := hc
      refine Or.inr ⟨.word [c], by simp [ScanState.step, ScanState.restart,
        hword], ?_⟩
      exact .word (n := [c]) (by simp) (by simp [hword])
  | word hne hn =>
      refine Or.inr ?_
      by_cases hword : isWordChar c = true
      · exact ⟨.word (u ++ [c]).reverse, by simp [ScanState.step, hword],
          .word (by simp) (forall_mem_concat hn hword)⟩
      · by_cases hcolon : c = ':'
        · subst hcolon
          have hnext : Pending (.colon u.reverse) (u ++ ([] ++ [':'])) :=
            .colon hne hn (by simp) (by simp)
          exact ⟨.colon u.reverse, by simp [ScanState.step, hword], hnext⟩
        · have hblank : Text.isBlank c = true :=
            (hc.resolve_left hword).resolve_left hcolon
          exact ⟨.named u.reverse,
            by simp [ScanState.step, hword, hcolon, hblank],
            .named (w := [c]) hne hn (by simp) (by simp [hblank])⟩
  | @named n w hne hn hw hblank =>
      refine Or.inr ?_
      by_cases hcolon : c = ':'
      · subst hcolon
        refine ⟨.colon n.reverse, by simp [ScanState.step], ?_⟩
        rw [List.append_assoc]
        exact .colon hne hn hblank (by simp)
      · have hc' : Text.isBlank c = true := hc.resolve_left hcolon
        refine ⟨.named n.reverse, by simp [ScanState.step, hcolon, hc'], ?_⟩
        rw [List.append_assoc]
        exact .named hne hn (by simp) (forall_mem_concat hblank hc')
  | @colon n w w' hne hn hblank hblank' =>
      by_cases hbrace : c = '{'
      · subst hbrace
        refine Or.inl ⟨⟨n, w, w', hne, hn, hblank, hblank'⟩, ?_, ?_⟩
        · simp [Heading.text, Heading.tail]
        · simp [ScanState.step]
      · have hc' : Text.isBlank c = true := hc.resolve_left hbrace
        refine Or.inr ⟨.colon n.reverse,
          by simp [ScanState.step, hbrace, hc'], ?_⟩
        rw [List.append_assoc, List.append_assoc, List.cons_append]
        exact .colon hne hn hblank (forall_mem_concat hblank' hc')

/-- Every other character breaks the heading off. -/
theorem step_breaks (hp : Pending s u) (hc : ¬ s.Continues c)
    (mode : ScanMode) : s.step mode c = (ScanState.restart c, none) := by
  cases hp with
  | outside => rfl
  | word hne hn =>
      simp only [ScanState.Continues, not_or] at hc
      simp [ScanState.step, ScanState.restart, hc.1, hc.2.1, hc.2.2]
  | named hne hn hw hblank =>
      simp only [ScanState.Continues, not_or] at hc
      simp [ScanState.step, hc.1, hc.2]
  | colon hne hn hblank hblank' =>
      simp only [ScanState.Continues, not_or] at hc
      simp [ScanState.step, hc.1, hc.2]

/-- A word that breaks a heading off is no part of another one. -/
theorem not_endsInWord (hp : Pending s u) (hc : ¬ s.Continues c)
    (hword : isWordChar c = true) : ¬ EndsInWord u := by
  cases hp with
  | outside => exact not_endsInWord_nil
  | word hne hn => exact absurd (Or.inl hword) hc
  | @named n w hne hn hw hblank =>
      rcases List.eq_nil_or_concat w with rfl | ⟨w', d, rfl⟩
      · exact absurd rfl hw
      · rw [List.concat_eq_append, ← List.append_assoc, endsInWord_concat]
        simp [isWordChar_of_isBlank (hblank d (by simp))]
  | @colon n w w' hne hn hblank hblank' =>
      rcases List.eq_nil_or_concat w' with rfl | ⟨w', d, rfl⟩
      · rw [← List.append_assoc, endsInWord_concat]
        decide
      · rw [List.concat_eq_append, ← List.cons_append, ← List.append_assoc,
          ← List.append_assoc, endsInWord_concat]
        simp [isWordChar_of_isBlank (hblank' d (by simp))]

/-- The scan at the end of a text that stops before a body. -/
theorem findingsToEnd_nil (hp : Pending s u) (mode : ScanMode) :
    findingsToEnd mode s [] = [] := by
  cases hp <;> rfl

end Pending

/-! ## The first heading -/

/-- What the scan meets in the text `t`, in the middle of a heading that
begins with `u`. -/
inductive Search (mode : ScanMode) (s : ScanState) (u t : List Char) : Prop
  /-- No heading. -/
  | nothing : Clear StartsHeading (u ++ t) [] →
      findingsToEnd mode s t = [] → Search mode s u t
  /-- A heading, the first one, behind a gap. -/
  | found (gap : List Char) (h : Heading) (rest : List Char) :
      u ++ t = gap ++ (h.text ++ rest) →
      Clear StartsHeading gap (h.text ++ rest) → ¬ EndsInWord gap →
      findingsToEnd mode s t =
        findingsToEnd mode (.body h.name.reverse [] 0 false) rest →
      Search mode s u t

/-- A search goes on after a character, with some more of the text in the
gap. -/
theorem Search.cons {mode : ScanMode} {s s' : ScanState}
    {g u u' t : List Char} {c : Char} (hsearch : Search mode s' u' t)
    (hstep : s.step mode c = (s', none)) (hu : u ++ [c] = g ++ u')
    (hclear : Clear StartsHeading g (u' ++ t)) (hg : ¬ EndsInWord g) :
    Search mode s u (c :: t) := by
  have hread : findingsToEnd mode s (c :: t) = findingsToEnd mode s' t := by
    rw [findingsToEnd_cons, hstep]
    rfl
  have htext : u ++ c :: t = g ++ (u' ++ t) := by
    rw [← List.append_assoc, ← hu, List.append_assoc]
    rfl
  cases hsearch with
  | nothing hnone hempty =>
      refine .nothing ?_ (hread.trans hempty)
      rw [htext]
      exact Clear.append (by rwa [List.append_nil]) hnone
  | found gap h rest hsplit hgap hword hfound =>
      refine .found (g ++ gap) h rest ?_ ?_ (not_endsInWord_append hg hword)
        (hread.trans hfound)
      · rw [htext, hsplit, List.append_assoc]
      · rw [hsplit] at hclear
        exact hclear.append hgap

/-- The scan stops at the first heading of a text. -/
theorem Pending.search {s : ScanState} {u : List Char} (hp : Pending s u)
    (mode : ScanMode) (t : List Char) : Search mode s u t := by
  induction t generalizing s u with
  | nil =>
      refine .nothing ?_ (hp.findingsToEnd_nil mode)
      rintro a b hsplit hb ⟨h, r, heq⟩
      rw [List.append_nil] at hsplit
      obtain ⟨c, v', hv, -⟩ := hp.continues hsplit hb heq.symm
      cases hv
  | cons c t ih =>
      by_cases hc : s.Continues c
      · rcases hp.step_continues hc mode with
          ⟨h, htext, hstep⟩ | ⟨s', hstep, hp'⟩
        · refine .found [] h t ?_ clear_nil not_endsInWord_nil ?_
          · rw [List.nil_append, ← htext, List.append_assoc]
            rfl
          · rw [findingsToEnd_cons, hstep]
            rfl
        · exact (ih hp').cons hstep (List.nil_append _).symm clear_nil
            not_endsInWord_nil
      · have hstep := hp.step_breaks hc mode
        have hclear : Clear StartsHeading u (c :: t) := by
          rintro a b hsplit hb ⟨h, r, heq⟩
          obtain ⟨d, v', hv, hd⟩ := hp.continues hsplit hb heq.symm
          exact hc ((List.cons.inj hv).1 ▸ hd)
        by_cases hword : isWordChar c = true
        · rw [ScanState.restart, if_pos hword] at hstep
          have hp' : Pending (.word [c]) [c] :=
            .word (n := [c]) (by simp) (by simp [hword])
          exact (ih hp').cons hstep rfl hclear (hp.not_endsInWord hc hword)
        · rw [ScanState.restart, if_neg hword] at hstep
          have hlast : Clear StartsHeading [c] t :=
            clear_singleton fun hstarts => hword hstarts.isWordChar_head
          exact (ih .outside).cons hstep (List.append_nil _).symm
            (hclear.append hlast) (by rwa [endsInWord_concat])

/-- **The first heading.**  Outside bodies a scan either meets no heading and
reports nothing, or goes on in the body of the first one. -/
theorem search_outside (mode : ScanMode) (text : List Char) :
    Search mode .outside [] text :=
  Pending.outside.search mode text

/-- A text without headings gives no findings. -/
theorem findingsToEnd_clear (mode : ScanMode) {text : List Char}
    (h : Clear StartsHeading text []) :
    findingsToEnd mode .outside text = [] := by
  cases search_outside mode text with
  | nothing _ hempty => exact hempty
  | found gap h' rest hsplit =>
      rw [List.nil_append] at hsplit
      refine absurd ⟨h', rest, List.append_nil _⟩ (h gap _ hsplit ?_)
      obtain ⟨c, cs, htext, -⟩ := h'.text_eq_cons
      simp [htext]

/-- Behind a gap in which no heading begins, a heading leads into its body. -/
theorem findingsToEnd_heading (mode : ScanMode) {gap rest : List Char}
    {h : Heading} (hclear : Clear StartsHeading gap (h.text ++ rest)) :
    findingsToEnd mode .outside (gap ++ (h.text ++ rest)) =
      findingsToEnd mode (.body h.name.reverse [] 0 false) rest := by
  cases search_outside mode (gap ++ (h.text ++ rest)) with
  | nothing hnone _ =>
      refine absurd ⟨h, rest, List.append_nil _⟩ (hnone gap _ rfl ?_)
      obtain ⟨c, cs, htext, -⟩ := h.text_eq_cons
      simp [htext]
  | found gap' h' rest' hsplit hclear' _ hfound =>
      obtain ⟨-, hrest⟩ := hclear.unique hclear' ⟨h, rest, rfl⟩
        ⟨h', rest', rfl⟩ hsplit
      obtain ⟨rfl, rfl⟩ := Heading.text_append_inj hrest
      exact hfound

end TableSketch
