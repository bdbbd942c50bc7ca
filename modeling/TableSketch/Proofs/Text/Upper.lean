import TableSketch.Text.Blank
import TableSketch.Text.Case

/-!
# What upper case brings into a text

The upper-case form of a character may be several characters, and a hostile
text may hold any of Unicode.  Still a type in upper case holds no line end,
semicolon or other sign of ASCII that was not there before: what a character
turns into is itself, a capital ASCII letter, or a character outside ASCII
(`mem_upperChar`).  For the characters of ASCII this is a matter of a few
cases; for all others it is read off the two tables of forms
(`isCapital_of_mem_upperExpansions`, `CaseRun.isCapital_image`).

Nor does a type vanish: every character turns into at least one, and no other
character turns into a blank (`isBlank_of_mem_upperChar`).  So a text that can
be seen can still be seen in upper case.

## Main results

* `mem_of_mem_upper` — no sign of ASCII comes in with upper case.
* `not_isLower_of_mem_upper` — and no small ASCII letter is left.
* `exists_not_isBlank_upper` — what is not blank stays so.
-/

namespace TableSketch.Text

/-- The code points that may come in with upper case: those of the capital
ASCII letters, and those outside ASCII. -/
def IsCapital (n : Nat) : Prop :=
  n.isValidChar ∧ (0x41 ≤ n ∧ n ≤ 0x5A ∨ 0x80 ≤ n)

instance (n : Nat) : Decidable (IsCapital n) :=
  inferInstanceAs (Decidable (_ ∧ _))

theorem not_isLower_of_isCapital {x : Char} (h : IsCapital x.toNat) :
    x.isLower = false := by
  have hrange := h.2
  have hlower : x.isLower =
      (decide (0x61 ≤ x.toNat) && decide (x.toNat ≤ 0x7A)) := rfl
  rw [hlower, Bool.and_eq_false_iff, decide_eq_false_iff_not,
    decide_eq_false_iff_not]
  omega

/-! ## The tables -/

/-- The forms of several characters are made of capitals. -/
theorem isCapital_of_mem_upperExpansions :
    ∀ e ∈ upperExpansions, ∀ n ∈ e.2, IsCapital n := by
  decide

namespace CaseRun

/-- A run leads to capitals: its ends do, and no surrogates are in between. -/
def LeadsToCapitals (r : CaseRun) : Prop :=
  let low : Int := r.first + r.shift
  let high : Int := r.last + r.shift
  (0x41 ≤ low ∧ high ≤ 0x5A) ∨ (0x80 ≤ low ∧ high < 0xD800) ∨
    (0xE000 ≤ low ∧ high < 0x110000)

instance (r : CaseRun) : Decidable r.LeadsToCapitals :=
  inferInstanceAs (Decidable (_ ∨ _))

theorem leadsToCapitals_of_mem_upperRuns :
    ∀ r ∈ upperRuns, r.LeadsToCapitals := by
  decide +kernel

theorem isCapital_image {r : CaseRun} (h : r.LeadsToCapitals) {n : Nat}
    (hn : r.covers n = true) : IsCapital (r.image n) := by
  obtain ⟨⟨hfirst, hlast⟩, -⟩ : (r.first ≤ n ∧ n ≤ r.last) ∧ _ := by
    simpa [covers] using hn
  unfold LeadsToCapitals at h
  unfold IsCapital Nat.isValidChar image
  omega

end CaseRun

/-- The blanks outside ASCII, by code point. -/
def wideBlanks : List Nat :=
  [0x85, 0xA0, 0x1680, 0x2000, 0x2001, 0x2002, 0x2003, 0x2004, 0x2005, 0x2006,
    0x2007, 0x2008, 0x2009, 0x200A, 0x2028, 0x2029, 0x202F, 0x205F, 0x3000]

theorem toNat_mem_wideBlanks {c : Char} (h : isBlank c = true)
    (hc : 0x80 ≤ c.toNat) : c.toNat ∈ wideBlanks := by
  simp only [isBlank, Bool.or_eq_true, Bool.and_eq_true, decide_eq_true_eq,
    beq_iff_eq] at h
  simp only [wideBlanks, List.mem_cons, List.not_mem_nil, or_false]
  omega

/-- Forms of several characters are made of what can be seen. -/
theorem not_mem_wideBlanks_of_mem_upperExpansions :
    ∀ e ∈ upperExpansions, e.2 ≠ [] ∧ ∀ n ∈ e.2, n ∉ wideBlanks := by
  decide

namespace CaseRun

/-- No blank lies between the ends that a run leads to. -/
def AvoidsBlanks (r : CaseRun) : Prop :=
  ∀ b ∈ wideBlanks, ¬ (r.first + r.shift ≤ (b : Int) ∧ b ≤ r.last + r.shift)

instance (r : CaseRun) : Decidable r.AvoidsBlanks :=
  inferInstanceAs (Decidable (∀ b ∈ wideBlanks, _))

theorem avoidsBlanks_of_mem_upperRuns : ∀ r ∈ upperRuns, r.AvoidsBlanks := by
  decide +kernel

theorem image_not_mem_wideBlanks {r : CaseRun} (h : r.AvoidsBlanks) {n : Nat}
    (hn : r.covers n = true) : r.image n ∉ wideBlanks := by
  obtain ⟨⟨hfirst, hlast⟩, -⟩ : (r.first ≤ n ∧ n ≤ r.last) ∧ _ := by
    simpa [covers] using hn
  intro hmem
  have hpos : 0 < r.image n := by
    have hall : ∀ b ∈ wideBlanks, 0 < b := by decide
    exact hall _ hmem
  refine h _ hmem ?_
  unfold image at hpos ⊢
  omega

end CaseRun

/-! ## One character -/

/-- A character of ASCII turns into itself or into a capital letter. -/
theorem toUpper_ascii {c : Char} (h : c.toNat < 0x80) :
    c.toUpper.isLower = false ∧
      (c.toUpper = c ∨ IsCapital c.toUpper.toNat) := by
  have hall : ∀ n < 0x80, (Char.ofNat n).toUpper.isLower = false ∧
      ((Char.ofNat n).toUpper = Char.ofNat n ∨
        IsCapital (Char.ofNat n).toUpper.toNat) := by
    decide
  simpa using hall c.toNat h

/-- What a character turns into, case by case. -/
theorem mem_upperChar_cases {c x : Char} (h : x ∈ upperChar c) :
    (c.toNat < 0x80 ∧ x = c.toUpper) ∨
      (∃ e ∈ upperExpansions, ∃ n ∈ e.2, x = Char.ofNat n) ∨
      (∃ r ∈ upperRuns, r.covers c.toNat = true ∧
        x = Char.ofNat (r.image c.toNat)) ∨
      (0x80 ≤ c.toNat ∧ x = c) := by
  simp only [upperChar] at h
  split at h
  · next hascii => exact Or.inl ⟨hascii, List.mem_singleton.mp h⟩
  next hascii =>
  split at h
  · next image hfind =>
      obtain ⟨n, hn, rfl⟩ := List.mem_map.mp h
      exact Or.inr (Or.inl ⟨_, List.mem_of_find?_eq_some hfind, n, hn, rfl⟩)
  split at h
  · next r hfind =>
      have hcovers := List.find?_some hfind
      exact Or.inr (Or.inr (Or.inl ⟨r, List.mem_of_find?_eq_some hfind,
        hcovers, List.mem_singleton.mp h⟩))
  · exact Or.inr (Or.inr (Or.inr
      ⟨Nat.le_of_not_lt hascii, List.mem_singleton.mp h⟩))

/-- **What a character turns into** is no small ASCII letter, and it is the
character itself or a capital. -/
theorem mem_upperChar {c x : Char} (h : x ∈ upperChar c) :
    x.isLower = false ∧ (x = c ∨ IsCapital x.toNat) := by
  have hcapital : ∀ {n : Nat}, IsCapital n → x = Char.ofNat n →
      x.isLower = false ∧ (x = c ∨ IsCapital x.toNat) := by
    intro n hn hx
    have hx' : IsCapital x.toNat := by
      rwa [hx, Char.ofNat, dif_pos hn.1]
    exact ⟨not_isLower_of_isCapital hx', Or.inr hx'⟩
  rcases mem_upperChar_cases h with ⟨hascii, rfl⟩ | ⟨e, he, n, hn, hx⟩ |
    ⟨r, hr, hcovers, hx⟩ | ⟨hwide, rfl⟩
  · exact toUpper_ascii hascii
  · exact hcapital (isCapital_of_mem_upperExpansions e he n hn) hx
  · have hleads := CaseRun.leadsToCapitals_of_mem_upperRuns r hr
    exact hcapital (CaseRun.isCapital_image hleads hcovers) hx
  · have hx : IsCapital x.toNat := ⟨x.valid, Or.inr hwide⟩
    exact ⟨not_isLower_of_isCapital hx, Or.inl rfl⟩

theorem upperChar_ne_nil (c : Char) : upperChar c ≠ [] := by
  simp only [upperChar]
  split
  · simp
  split
  · next image hfind =>
      have himage := (not_mem_wideBlanks_of_mem_upperExpansions _
        (List.mem_of_find?_eq_some hfind)).1
      simpa using himage
  split
  · simp
  · simp

/-- Only blanks turn into blanks. -/
theorem isBlank_of_mem_upperChar {c x : Char} (h : x ∈ upperChar c)
    (hx : isBlank x = true) : isBlank c = true := by
  have himage : ∀ {n : Nat}, IsCapital n → n ∉ wideBlanks →
      x ≠ Char.ofNat n := by
    rintro n ⟨hvalid, hrange⟩ hmem rfl
    have htoNat : (Char.ofNat n).toNat = n := by
      rw [Char.ofNat, dif_pos hvalid]
      rfl
    rcases hrange with hascii | hwide
    · simp only [isBlank, htoNat, Bool.or_eq_true, Bool.and_eq_true,
        decide_eq_true_eq, beq_iff_eq] at hx
      omega
    · have hblank := toNat_mem_wideBlanks hx (by omega)
      exact hmem (htoNat ▸ hblank)
  rcases mem_upperChar_cases h with ⟨hascii, rfl⟩ | ⟨e, he, n, hn, hxn⟩ |
    ⟨r, hr, hcovers, hxn⟩ | ⟨-, rfl⟩
  · have hall : ∀ n < 0x80, isBlank (Char.ofNat n).toUpper = true →
        isBlank (Char.ofNat n) = true := by
      decide
    simpa using hall c.toNat hascii (by simpa using hx)
  · have hn' := (not_mem_wideBlanks_of_mem_upperExpansions e he).2 n hn
    exact absurd hxn (himage (isCapital_of_mem_upperExpansions e he n hn) hn')
  · have hleads := CaseRun.leadsToCapitals_of_mem_upperRuns r hr
    have havoids := CaseRun.avoidsBlanks_of_mem_upperRuns r hr
    exact absurd hxn (himage (CaseRun.isCapital_image hleads hcovers)
      (CaseRun.image_not_mem_wideBlanks havoids hcovers))
  · exact hx

/-! ## Whole texts -/

/-- No sign of ASCII comes in with upper case. -/
theorem mem_of_mem_upper {s : String} {x : Char} (hx : ¬ IsCapital x.toNat)
    (h : x ∈ (upper s).toList) : x ∈ s.toList := by
  rw [toList_upper] at h
  obtain ⟨c, hc, hmem⟩ := List.mem_flatMap.mp h
  rcases (mem_upperChar hmem).2 with rfl | hcapital
  · exact hc
  · exact absurd hcapital hx

/-- No small ASCII letter is left in upper case. -/
theorem not_isLower_of_mem_upper {s : String} {x : Char}
    (h : x ∈ (upper s).toList) : x.isLower = false := by
  rw [toList_upper] at h
  obtain ⟨c, -, hmem⟩ := List.mem_flatMap.mp h
  exact (mem_upperChar hmem).1

/-- What is not blank stays so in upper case. -/
theorem exists_not_isBlank_upper {s : String}
    (h : ∃ c ∈ s.toList, isBlank c = false) :
    ∃ x ∈ (upper s).toList, isBlank x = false := by
  obtain ⟨c, hc, hblank⟩ := h
  obtain ⟨x, hx⟩ := List.exists_mem_of_ne_nil _ (upperChar_ne_nil c)
  refine ⟨x, ?_, ?_⟩
  · rw [toList_upper]
    exact List.mem_flatMap.mpr ⟨c, hc, hx⟩
  · refine Bool.eq_false_iff.mpr fun hxblank => ?_
    rw [isBlank_of_mem_upperChar hx hxblank] at hblank
    cases hblank

end TableSketch.Text
