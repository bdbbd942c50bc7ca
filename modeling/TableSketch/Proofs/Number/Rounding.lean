import Mathlib.Algebra.Order.Field.Power
import Mathlib.Algebra.Order.Field.Rat
import Mathlib.Tactic.FieldSimp
import Mathlib.Tactic.Linarith
import Mathlib.Tactic.Ring
import TableSketch.Number.Binary64

/-!
# Rounding to the double format

A ratio is rounded in three steps.  The exponent of the last bit that is kept
comes from the bits of its two parts, the ratio in units of that bit is rounded
to a whole number, and this is packed as the mantissa.  `Rounds` says what the
first two steps come to without saying how.  The exponent is the least one
or leaves 53 bits in front of it, which no other exponent does.

Everything about rounding follows from that.  Of two ratios the greater one has
the greater exponent, or both have the same and the whole numbers decide, so
rounding keeps the order (`Rounds.mono`).  A ratio that fits the format is a
whole number of units, so it is rounded to itself (`Rounds.eq_of_fits`).

## Main results

* `roundQuotient_mono` — rounding to a whole number keeps the order.
* `exists_rounds`, `exists_rounds_dyadic` — what rounding does.
* `Rounds.mono`, `Rounds.eq_of_fits` — the two laws.
-/

namespace TableSketch.Binary64

/-! ## Rounding to a whole number -/

section Quotient

variable {num den num' den' : Nat}

theorem div_le_roundQuotient (num den : Nat) :
    num / den ≤ roundQuotient num den := by
  unfold roundQuotient
  dsimp only
  split_ifs <;> omega

theorem roundQuotient_le (num den : Nat) :
    roundQuotient num den ≤ num / den + 1 := by
  unfold roundQuotient
  dsimp only
  split_ifs <;> omega

/-- A whole number is rounded to itself. -/
theorem roundQuotient_one (m : Nat) : roundQuotient m 1 = m := by
  simp [roundQuotient, Nat.mod_one]

/-- **A greater ratio is never rounded to less.** -/
theorem roundQuotient_mono (hden : 0 < den) (hden' : 0 < den')
    (h : num * den' ≤ num' * den) :
    roundQuotient num den ≤ roundQuotient num' den' := by
  have hfloor : num / den ≤ num' / den' := by
    rw [Nat.le_div_iff_mul_le hden']
    refine Nat.le_of_mul_le_mul_right ?_ hden
    calc num / den * den' * den = num / den * den * den' := by ring
      _ ≤ num * den' := Nat.mul_le_mul_right _ (Nat.div_mul_le_self num den)
      _ ≤ num' * den := h
  rcases Nat.lt_or_eq_of_le hfloor with hlt | heq
  · calc roundQuotient num den ≤ num / den + 1 := roundQuotient_le num den
      _ ≤ num' / den' := hlt
      _ ≤ roundQuotient num' den' := div_le_roundQuotient num' den'
  -- Between the same whole numbers, what is left over decides.
  · have hrest : num % den * den' ≤ num' % den' * den := by
      have hnum := Nat.div_add_mod num den
      have hnum' := Nat.div_add_mod num' den'
      rw [← hnum, ← hnum', heq] at h
      nlinarith
    have hdown : 2 * (num' % den') < den' → 2 * (num % den) < den := by
      intro hlt
      nlinarith
    have hup : den < 2 * (num % den) → den' < 2 * (num' % den') := by
      intro hlt
      nlinarith
    unfold roundQuotient
    dsimp only
    rw [heq]
    split_ifs <;> omega

theorem roundQuotient_le_of_div_le (hden : 0 < den) (hden' : 0 < den')
    (h : (num / den : ℚ) ≤ num' / den') :
    roundQuotient num den ≤ roundQuotient num' den' := by
  have hpos : (0 : ℚ) < den := by exact_mod_cast hden
  have hpos' : (0 : ℚ) < den' := by exact_mod_cast hden'
  rw [div_le_div_iff₀ hpos hpos'] at h
  exact roundQuotient_mono hden hden' (by exact_mod_cast h)

end Quotient

/-! ## Rounding to the format -/

section Ratio

variable {num den : Nat}

theorem scaled_pos (num : Nat) (hden : 0 < den) (e : Int) :
    0 < (scaled num den e).2 := by
  unfold scaled
  split
  · exact Nat.mul_pos hden (Nat.two_pow_pos _)
  · exact hden

theorem two_zpow_eq {e : Int} (he : 0 ≤ e) :
    (2 : ℚ) ^ e = (Nat.pow 2 e.toNat : Nat) := by
  obtain ⟨n, rfl⟩ := Int.eq_ofNat_of_zero_le he
  rw [zpow_natCast, Int.toNat_natCast, Nat.pow_eq, Nat.cast_pow]
  rfl

theorem scaled_ratio (num den : Nat) (e : Int) :
    ((scaled num den e).1 / (scaled num den e).2 : ℚ) = num / den / 2 ^ e := by
  unfold scaled
  split
  · next he =>
      rw [two_zpow_eq he, Nat.cast_mul, div_div]
  · next he =>
      rw [Nat.cast_mul, ← two_zpow_eq (by omega), zpow_neg]
      ring

/-- The last bit of a ratio that is kept has the exponent `e`. -/
structure IsLastBit (x : ℚ) (e : Int) : Prop where
  least : minExponent ≤ e
  lt : x < 2 ^ (e + 53)
  /-- At all exponents but the least one the ratio has 53 bits. -/
  full : e = minExponent ∨ 2 ^ (e + 52) ≤ x

/-- How a ratio is rounded: to the whole number `m` in units of `2 ^ e`. -/
structure Rounds (x : ℚ) (m : Nat) (e : Int) : Prop extends IsLastBit x e where
  nearest : ∃ n d : Nat, 0 < d ∧ (n / d : ℚ) = x / 2 ^ e ∧
    m = roundQuotient n d

/-- The number with a mantissa of up to 53 bits, or of one that has just become
too large for that. -/
def packed (negative : Bool) (m : Nat) (e : Int) : Binary64 :=
  if m = Nat.pow 2 53 then
    if maxExponent < e + 1 then .infinite negative
    else .finite negative (Nat.pow 2 52) (e + 1)
  else if maxExponent < e then .infinite negative
  else .finite negative m e

theorem log2_bounds {n : Nat} (hn : n ≠ 0) :
    (2 : ℚ) ^ (n.log2 : Int) ≤ n ∧ (n : ℚ) < 2 ^ ((n.log2 : Int) + 1) := by
  have hle : 2 ^ n.log2 ≤ n := Nat.log2_self_le hn
  have hlt : n < 2 ^ (n.log2 + 1) := Nat.lt_log2_self
  constructor
  · rw [zpow_natCast]
    exact_mod_cast hle
  · rw [← Nat.cast_succ, zpow_natCast]
    exact_mod_cast hlt

/-- Whether a ratio in units of `2 ^ e` has less than 53 bits. -/
theorem scaled_lt_iff (hden : 0 < den) (e : Int) :
    (scaled num den e).1 < (scaled num den e).2 * Nat.pow 2 52 ↔
      (num / den : ℚ) < 2 ^ (e + 52) := by
  have hpos : (0 : ℚ) < (scaled num den e).2 := by
    exact_mod_cast scaled_pos num hden e
  have hunit : (0 : ℚ) < 2 ^ e := zpow_pos two_pos e
  calc (scaled num den e).1 < (scaled num den e).2 * Nat.pow 2 52
      ↔ ((scaled num den e).1 : ℚ) < 2 ^ 52 * (scaled num den e).2 := by
        rw [Nat.mul_comm, Nat.pow_eq]
        exact_mod_cast Iff.rfl
    _ ↔ ((scaled num den e).1 / (scaled num den e).2 : ℚ) < 2 ^ 52 :=
        (div_lt_iff₀ hpos).symm
    _ ↔ (num / den : ℚ) < 2 ^ 52 * 2 ^ e := by
        rw [scaled_ratio, div_lt_iff₀ hunit]
    _ ↔ (num / den : ℚ) < 2 ^ (e + 52) := by
        rw [zpow_add₀ two_ne_zero, zpow_ofNat, mul_comm]

/-- The bits of the two parts of a ratio tell its own up to one. -/
theorem ratio_bounds (hnum : num ≠ 0) (hden : 0 < den) {e : Int}
    (he : (num.log2 : Int) - den.log2 - 52 = e) :
    (num / den : ℚ) < 2 ^ (e + 53) ∧ 2 ^ (e + 51) ≤ (num / den : ℚ) := by
  have hpos : (0 : ℚ) < den := by exact_mod_cast hden
  obtain ⟨hnumLow, hnumHigh⟩ := log2_bounds hnum
  obtain ⟨hdenLow, hdenHigh⟩ := log2_bounds (Nat.pos_iff_ne_zero.mp hden)
  rw [div_lt_iff₀ hpos, le_div_iff₀ hpos]
  constructor
  · calc (num : ℚ) < 2 ^ ((num.log2 : Int) + 1) := hnumHigh
      _ = 2 ^ (e + 53 + (den.log2 : Int)) := by
        congr 1
        omega
      _ = 2 ^ (e + 53) * 2 ^ (den.log2 : Int) := zpow_add₀ two_ne_zero _ _
      _ ≤ 2 ^ (e + 53) * den := by gcongr
  · calc (2 : ℚ) ^ (e + 51) * den
        ≤ 2 ^ (e + 51) * 2 ^ ((den.log2 : Int) + 1) := by gcongr
      _ = 2 ^ (e + 51 + ((den.log2 : Int) + 1)) :=
        (zpow_add₀ two_ne_zero _ _).symm
      _ = 2 ^ (num.log2 : Int) := by
        congr 1
        omega
      _ ≤ num := hnumLow

/-- All 53 bits of a ratio are kept, unless the format ends before. -/
theorem exists_lastBit_eq (hnum : num ≠ 0) (hden : 0 < den) :
    ∃ e : Int, lastBit num den = max e minExponent ∧
      (num / den : ℚ) < 2 ^ (e + 53) ∧ 2 ^ (e + 52) ≤ (num / den : ℚ) := by
  unfold lastBit
  dsimp only
  generalize he : (num.log2 : Int) - den.log2 - 52 = e
  obtain ⟨hlt, hle⟩ := ratio_bounds hnum hden he
  split
  · next h =>
      refine ⟨e - 1, rfl, ?_, ?_⟩
      · rw [show e - 1 + 53 = e + 52 by omega]
        exact (scaled_lt_iff hden e).mp h
      · rwa [show e - 1 + 52 = e + 51 by omega]
  · next h =>
      rw [scaled_lt_iff hden, not_lt] at h
      exact ⟨e, rfl, hlt, h⟩

theorem isLastBit_lastBit (hnum : num ≠ 0) (hden : 0 < den) :
    IsLastBit (num / den) (lastBit num den) := by
  obtain ⟨e, heq, hlt, hle⟩ := exists_lastBit_eq hnum hden
  rw [heq]
  rcases le_total e minExponent with hmin | hmin
  · rw [max_eq_right hmin]
    refine ⟨le_rfl, hlt.trans_le ?_, Or.inl rfl⟩
    exact zpow_le_zpow_right₀ one_le_two (by omega)
  · rw [max_eq_left hmin]
    exact ⟨hmin, hlt, Or.inr hle⟩

theorem roundRatio_eq_packed (hnum : num ≠ 0) (negative : Bool) :
    roundRatio negative num den =
      packed negative (roundQuotient (scaled num den (lastBit num den)).1
        (scaled num den (lastBit num den)).2) (lastBit num den) := by
  rw [roundRatio, if_neg hnum]
  -- The exponent is a long computation that nothing here depends on.
  generalize lastBit num den = e
  extract_lets e'
  subst e'
  generalize scaled num den e = s
  obtain ⟨n, d⟩ := s
  rw [packed]
  by_cases hcarry : roundQuotient n d = Nat.pow 2 53
  · rw [if_pos hcarry]
    simp only [if_pos hcarry]
  · rw [if_neg hcarry]
    simp only [if_neg hcarry]

/-- **What rounding does.** -/
theorem exists_rounds (hnum : num ≠ 0) (hden : 0 < den) (negative : Bool) :
    ∃ m e, Rounds (num / den) m e ∧
      roundRatio negative num den = packed negative m e := by
  have hnearest := scaled_ratio num den (lastBit num den)
  exact ⟨_, _, ⟨isLastBit_lastBit hnum hden, _, _, scaled_pos num hden _,
    hnearest, rfl⟩, roundRatio_eq_packed hnum negative⟩

theorem exists_rounds_dyadic {n : Nat} (hn : n ≠ 0) (negative : Bool)
    (e : Int) : ∃ m f, Rounds (n * 2 ^ e) m f ∧
      roundDyadic negative n e = packed negative m f := by
  by_cases he : 0 ≤ e
  · have hnum : n * Nat.pow 2 e.toNat ≠ 0 :=
      Nat.mul_ne_zero hn (Nat.two_pow_pos _).ne'
    obtain ⟨m, f, hrounds, heq⟩ := exists_rounds hnum Nat.one_pos negative
    rw [Nat.cast_mul, ← two_zpow_eq he, Nat.cast_one, div_one] at hrounds
    refine ⟨m, f, hrounds, ?_⟩
    rw [roundDyadic, if_pos he]
    exact heq
  · obtain ⟨m, f, hrounds, heq⟩ :=
      exists_rounds hn (Nat.two_pow_pos (-e).toNat) negative
    rw [← Nat.pow_eq, ← two_zpow_eq (by omega), zpow_neg,
      div_inv_eq_mul] at hrounds
    refine ⟨m, f, hrounds, ?_⟩
    rw [roundDyadic, if_neg he]
    exact heq

/-- Nothing is rounded to nothing. -/
theorem Rounds.zero : Rounds 0 0 minExponent := by
  refine ⟨⟨le_rfl, zpow_pos two_pos _, Or.inl rfl⟩, 0, 1, Nat.one_pos, ?_, rfl⟩
  simp

end Ratio

/-! ## The laws of rounding -/

namespace Rounds

variable {x y : ℚ} {a : Bool} {m n k : Nat} {e f g : Int}

/-- What is at most `k` units is rounded to at most `k`. -/
theorem le_of_le (h : Rounds x m e) (hk : x ≤ k * 2 ^ e) : m ≤ k := by
  obtain ⟨n, d, hd, hratio, rfl⟩ := h.nearest
  have hunit : (0 : ℚ) < 2 ^ e := zpow_pos two_pos e
  have hle : roundQuotient n d ≤ roundQuotient k 1 := by
    refine roundQuotient_le_of_div_le hd Nat.one_pos ?_
    rwa [hratio, Nat.cast_one, div_one, div_le_iff₀ hunit]
  rwa [roundQuotient_one] at hle

/-- And what is at least `k` units is rounded to at least `k`. -/
theorem ge_of_ge (h : Rounds x m e) (hk : k * 2 ^ e ≤ x) : k ≤ m := by
  obtain ⟨n, d, hd, hratio, rfl⟩ := h.nearest
  have hunit : (0 : ℚ) < 2 ^ e := zpow_pos two_pos e
  have hle : roundQuotient k 1 ≤ roundQuotient n d := by
    refine roundQuotient_le_of_div_le Nat.one_pos hd ?_
    rwa [hratio, Nat.cast_one, div_one, le_div_iff₀ hunit]
  rwa [roundQuotient_one] at hle

theorem mantissa_le (h : Rounds x m e) : m ≤ 2 ^ 53 := by
  refine h.le_of_le ?_
  have hlt := h.lt
  rw [zpow_add₀ two_ne_zero, zpow_ofNat, mul_comm] at hlt
  exact_mod_cast hlt.le

theorem mantissa_ge (h : Rounds x m e) : e = minExponent ∨ 2 ^ 52 ≤ m := by
  refine h.full.imp_right fun hfull => h.ge_of_ge ?_
  rw [zpow_add₀ two_ne_zero, zpow_ofNat, mul_comm] at hfull
  exact_mod_cast hfull

/-- Of two ratios the greater one has the greater exponent. -/
theorem exponent_mono (h : Rounds x m e) (h' : Rounds y n f) (hle : x ≤ y) :
    e ≤ f := by
  rcases h.full with rfl | hfull
  · exact h'.least
  · have hlt : (2 : ℚ) ^ (e + 52) < 2 ^ (f + 53) :=
      (hfull.trans hle).trans_lt h'.lt
    rw [zpow_lt_zpow_iff_right₀ one_lt_two] at hlt
    omega

/-- **Rounding keeps the order.** -/
theorem mono (h : Rounds x m e) (h' : Rounds y n f) (hle : x ≤ y) :
    (m * 2 ^ e : ℚ) ≤ n * 2 ^ f := by
  rcases (h.exponent_mono h' hle).eq_or_lt with rfl | hlt
  · obtain ⟨p, d, hd, hratio, rfl⟩ := h.nearest
    obtain ⟨p', d', hd', hratio', rfl⟩ := h'.nearest
    have hmantissa := roundQuotient_le_of_div_le hd hd' (by
      rw [hratio, hratio']
      gcongr)
    gcongr
  -- The mantissa of the smaller ratio may be all of 53 bits, but then that of
  -- the greater one is at least half as much.
  · have hfull : 2 ^ 52 ≤ n := h'.mantissa_ge.resolve_left (by
      have := h.least
      omega)
    have hm : (m : ℚ) ≤ 2 ^ 53 := by exact_mod_cast h.mantissa_le
    have hn : (2 ^ 52 : ℚ) ≤ n := by exact_mod_cast hfull
    calc (m * 2 ^ e : ℚ) ≤ 2 ^ 53 * 2 ^ e := by gcongr
      _ = 2 ^ 52 * 2 ^ (e + 1) := by
        rw [zpow_add₀ two_ne_zero, zpow_one]
        ring
      _ ≤ n * 2 ^ f := by
        gcongr
        · exact one_le_two
        · omega

/-- **A number of the format is rounded to itself.** -/
theorem eq_of_fits (h : Rounds (k * 2 ^ g) m e) (hk : k < 2 ^ 53)
    (hg : minExponent ≤ g) : (m * 2 ^ e : ℚ) = k * 2 ^ g := by
  have hle : e ≤ g := by
    rcases h.full with rfl | hfull
    · exact hg
    · have hlt : (k * 2 ^ g : ℚ) < 2 ^ (g + 53) := by
        rw [zpow_add₀ two_ne_zero, zpow_ofNat, mul_comm]
        have hk' : (k : ℚ) < 2 ^ 53 := by exact_mod_cast hk
        gcongr
      have hpower := hfull.trans_lt hlt
      rw [zpow_lt_zpow_iff_right₀ one_lt_two] at hpower
      omega
  obtain ⟨i, hi⟩ := Int.eq_ofNat_of_zero_le (sub_nonneg.mpr hle)
  obtain rfl : g = e + i := by omega
  have hunits : (k * 2 ^ (e + (i : Int)) : ℚ) = (k * 2 ^ i : Nat) * 2 ^ e := by
    rw [zpow_add₀ two_ne_zero, zpow_natCast]
    push_cast
    ring
  rw [hunits] at h ⊢
  obtain rfl : m = k * 2 ^ i :=
    le_antisymm (h.le_of_le le_rfl) (h.ge_of_ge le_rfl)
  rfl

end Rounds

end TableSketch.Binary64
