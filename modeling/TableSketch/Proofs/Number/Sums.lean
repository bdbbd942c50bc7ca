import Mathlib.Order.WithBot
import TableSketch.Proofs.Number.Rounding

/-!
# Rounded sums

Numbers of the double format are compared by their exact values, and a sum is
the exact one, rounded once.  So the laws of sums are those of rounding: a sum
grows with its first part (`add_le_add_of_nonneg`), and it is not less than this
(`le_add_of_nonneg`), because this is a number of the format and would be
rounded to itself.

The laws are stated for numbers that are not negative, as instants and delays
are.  Those are told by their `key`, where infinity stands above all others, so
that an overflow needs no case of its own.  `nan` does not come up: it is the
sum of infinities of both signs only.

## Main results

* `le_iff_key_le` — how numbers are compared.
* `exists_rounds_add` — what addition does.
* `isTime_add`, `add_le_add_of_nonneg`, `le_add_of_nonneg` — the laws of sums.
* `not_add_infinite_le` — finite numbers are below all sums with infinity.
-/

namespace TableSketch.Binary64

/-! ## Comparing by value -/

/-- The value of a finite number. -/
def value (negative : Bool) (m : Nat) (e : Int) : ℚ :=
  (if negative then -(m : ℚ) else m) * 2 ^ e

/-- What a number that is not negative is compared by. -/
def key : Binary64 → WithTop ℚ
  | .finite negative m e => (value negative m e : ℚ)
  | .infinite _ | .nan => ⊤

section Order

variable {a b : Bool} {m n : Nat} {e f least : Int} {x y z : Binary64}

theorem signedAt_eq (h : least ≤ e) :
    (signedAt a m e least : ℚ) * 2 ^ least = value a m e := by
  have hexponent : (e - least) + least = e := by omega
  have hpower :
      ((Nat.pow 2 (e - least).toNat : Nat) : ℚ) * 2 ^ least = 2 ^ e := by
    rw [← two_zpow_eq (by omega), ← zpow_add₀ two_ne_zero, hexponent]
  unfold signedAt value
  rw [← hpower]
  cases a with
  | false => simp [mul_assoc]
  | true => simp [mul_assoc]

theorem finite_le_finite_iff :
    finite a m e ≤ finite b n f ↔ value a m e ≤ value b n f := by
  have hunit : (0 : ℚ) < 2 ^ min e f := zpow_pos two_pos _
  have hle : finite a m e ≤ finite b n f ↔
      signedAt a m e (min e f) ≤ signedAt b n f (min e f) := by
    show ble (finite a m e) (finite b n f) = true ↔ _
    simp [ble]
  rw [hle, ← signedAt_eq (min_le_left e f), ← signedAt_eq (min_le_right e f),
    mul_le_mul_iff_left₀ hunit, Int.cast_le]

theorem value_zero (a : Bool) (e : Int) : value a 0 e = 0 := by
  cases a <;> simp [value]

theorem value_eq_of_nonneg (h : 0 ≤ value a m e) : value a m e = m * 2 ^ e := by
  cases a with
  | false => rfl
  | true =>
      have hunit : (0 : ℚ) < 2 ^ e := zpow_pos two_pos e
      have hm : (m : ℚ) ≤ 0 := by
        simpa [value] using nonneg_of_mul_nonneg_left h hunit
      have hzero : m = 0 := Nat.le_zero.mp (by exact_mod_cast hm)
      simp [value, hzero]

/-- The numbers that are not negative. -/
theorem eq_of_nonneg (h : 0 ≤ x) :
    x = .infinite false ∨ ∃ a m e, x = .finite a m e ∧ 0 ≤ value a m e := by
  cases x with
  | finite a m e =>
      refine Or.inr ⟨a, m, e, rfl, ?_⟩
      rw [← value_zero false minExponent]
      exact finite_le_finite_iff.mp h
  | infinite a =>
      cases a with
      | false => exact Or.inl rfl
      | true => cases h
  | nan => cases h

theorem nonneg_finite_iff : 0 ≤ finite a m e ↔ 0 ≤ value a m e := by
  rw [← value_zero false minExponent]
  exact finite_le_finite_iff

/-- A number that is no special value. -/
def IsFinite : Binary64 → Prop
  | .finite .. => True
  | .infinite _ | .nan => False

instance (x : Binary64) : Decidable x.IsFinite :=
  match x with
  | .finite .. => isTrue trivial
  | .infinite _ | .nan => isFalse id

theorem isFinite_or_eq (h : 0 ≤ x) : x.IsFinite ∨ x = .infinite false := by
  rcases eq_of_nonneg h with rfl | ⟨a, m, e, rfl, -⟩
  · exact Or.inr rfl
  · exact Or.inl trivial

/-- Numbers that are not negative are compared by their keys. -/
theorem le_iff_key_le (hx : 0 ≤ x) (hy : 0 ≤ y) : x ≤ y ↔ key x ≤ key y := by
  rcases eq_of_nonneg hx with rfl | ⟨a, m, e, rfl, -⟩
  · rcases eq_of_nonneg hy with rfl | ⟨b, n, f, rfl, -⟩
    · exact iff_of_true rfl le_rfl
    · exact iff_of_false Bool.false_ne_true (WithTop.coe_lt_top _).not_ge
  · rcases eq_of_nonneg hy with rfl | ⟨b, n, f, rfl, -⟩
    · exact iff_of_true rfl le_top
    · rw [finite_le_finite_iff]
      exact WithTop.coe_le_coe.symm

theorem le_refl_of_nonneg (hx : 0 ≤ x) : x ≤ x :=
  (le_iff_key_le hx hx).mpr le_rfl

theorem le_trans_of_nonneg (hx : 0 ≤ x) (hy : 0 ≤ y) (hz : 0 ≤ z) (h : x ≤ y)
    (h' : y ≤ z) : x ≤ z :=
  (le_iff_key_le hx hz).mpr
    (((le_iff_key_le hx hy).mp h).trans ((le_iff_key_le hy hz).mp h'))

end Order

/-! ## Rounding keeps the order -/

/-- A number of the format: the mantissa has up to 53 bits, and the exponent is
in its range. -/
def InFormat : Binary64 → Prop
  | .finite _ m e => m < 2 ^ 53 ∧ minExponent ≤ e ∧ e ≤ maxExponent
  | .infinite _ | .nan => True

/-- An instant or a stretch of time. -/
structure IsTime (x : Binary64) : Prop where
  nonneg : 0 ≤ x
  inFormat : x.InFormat

/-- What is left of a value in the format: those that are too large become
infinite. -/
def cut (q : ℚ) : WithTop ℚ :=
  if q < 2 ^ (maxExponent + 53) then (q : WithTop ℚ) else ⊤

theorem cut_of_lt {q : ℚ} (h : q < 2 ^ (maxExponent + 53)) : cut q = (q : ℚ) :=
  if_pos h

theorem cut_of_le {q : ℚ} (h : 2 ^ (maxExponent + 53) ≤ q) : cut q = ⊤ :=
  if_neg h.not_gt

theorem cut_mono {p q : ℚ} (h : p ≤ q) : cut p ≤ cut q := by
  unfold cut
  split_ifs with hp hq hq
  · exact WithTop.coe_le_coe.mpr h
  · exact le_top
  · exact absurd (h.trans_lt hq) hp
  · exact le_rfl

namespace Rounds

variable {x y : ℚ} {a : Bool} {m n k : Nat} {e f g : Int}

/-- Packing keeps the value, unless that is too large. -/
theorem key_packed (h : Rounds x m e) :
    key (packed false m e) = cut (m * 2 ^ e) := by
  have hpower : ∀ {i : Int} {j : Nat},
      (2 : ℚ) ^ (i + (j : Int)) = (2 ^ j : Nat) * 2 ^ i := by
    intro i j
    rw [zpow_add₀ two_ne_zero, zpow_natCast, mul_comm]
    push_cast
    rfl
  unfold packed
  split
  · next hcarry =>
      have hm : m = 2 ^ 53 := hcarry
      have hvalue : (m * 2 ^ e : ℚ) = 2 ^ (e + 53) := by
        rw [hm]
        exact hpower.symm
      rw [hvalue]
      split
      · next hover =>
          exact (cut_of_le (zpow_le_zpow_right₀ one_le_two (by omega))).symm
      · next hfits =>
          rw [cut_of_lt (zpow_lt_zpow_right₀ one_lt_two (by omega)),
            show e + 53 = e + 1 + (52 : Nat) by omega, hpower]
          rfl
  · next hplain =>
      have hlt : m < 2 ^ 53 := lt_of_le_of_ne h.mantissa_le hplain
      split
      · next hover =>
          have hmin : minExponent < maxExponent := by decide
          have hfull : 2 ^ 52 ≤ m := h.mantissa_ge.resolve_left (by omega)
          refine (cut_of_le ?_).symm
          calc (2 : ℚ) ^ (maxExponent + 53) ≤ 2 ^ (e + (52 : Nat)) :=
                zpow_le_zpow_right₀ one_le_two (by omega)
            _ = (2 ^ 52 : Nat) * 2 ^ e := hpower
            _ ≤ m * 2 ^ e := by gcongr
      · next hfits =>
          refine (cut_of_lt ?_).symm
          calc (m * 2 ^ e : ℚ) < (2 ^ 53 : Nat) * 2 ^ e := by gcongr
            _ = 2 ^ (e + (53 : Nat)) := hpower.symm
            _ ≤ 2 ^ (maxExponent + 53) :=
                zpow_le_zpow_right₀ one_le_two (by omega)

theorem inFormat_packed (h : Rounds x m e) (negative : Bool) :
    (packed negative m e).InFormat := by
  have hleast := h.least
  unfold packed
  split
  · next hcarry =>
      split
      · trivial
      · next hfits =>
          refine ⟨?_, by omega, by omega⟩
          exact Nat.pow_lt_pow_right Nat.one_lt_two (by omega)
  · next hplain =>
      split
      · trivial
      · next hfits =>
          exact ⟨lt_of_le_of_ne h.mantissa_le hplain, hleast, by omega⟩

/-- A greater ratio is not packed to less. -/
theorem key_mono (h : Rounds x m e) (h' : Rounds y n f) (hle : x ≤ y) :
    key (packed false m e) ≤ key (packed false n f) := by
  rw [h.key_packed, h'.key_packed]
  exact cut_mono (h.mono h' hle)

/-- A number of the format is packed as it is. -/
theorem key_eq (h : Rounds (value a k g) m e) (hk : (finite a k g).InFormat)
    (hnonneg : 0 ≤ value a k g) :
    key (packed false m e) = key (finite a k g) := by
  obtain ⟨hlt, hleast, hmost⟩ := hk
  have hvalue := value_eq_of_nonneg hnonneg
  have hbound : (k * 2 ^ g : ℚ) < 2 ^ (maxExponent + 53) := by
    have hk' : (k : ℚ) < 2 ^ 53 := by exact_mod_cast hlt
    calc (k * 2 ^ g : ℚ) < 2 ^ 53 * 2 ^ g := by gcongr
      _ ≤ 2 ^ 53 * 2 ^ maxExponent := by
        gcongr
        exact one_le_two
      _ = 2 ^ (maxExponent + 53) := by
        rw [zpow_add₀ two_ne_zero, zpow_ofNat, mul_comm]
  rw [hvalue] at h
  rw [h.key_packed, h.eq_of_fits hlt hleast, cut_of_lt hbound, key, hvalue]

end Rounds

/-! ## Sums -/

section Sums

variable {a b : Bool} {m n : Nat} {e f : Int} {x y z : Binary64}

theorem exists_rounds_value (h : 0 ≤ value a m e) :
    ∃ k g, Rounds (value a m e) k g := by
  rw [value_eq_of_nonneg h]
  by_cases hm : m = 0
  · rw [hm, Nat.cast_zero, zero_mul]
    exact ⟨_, _, Rounds.zero⟩
  · obtain ⟨k, g, hrounds, -⟩ := exists_rounds_dyadic hm false e
    exact ⟨k, g, hrounds⟩

theorem finite_add_finite (a b : Bool) (m n : Nat) (e f : Int) :
    finite a m e + finite b n f =
      if signedAt a m e (min e f) + signedAt b n f (min e f) = 0 then
        zero (a && b)
      else
        roundDyadic
          (decide (signedAt a m e (min e f) + signedAt b n f (min e f) < 0))
          (signedAt a m e (min e f) + signedAt b n f (min e f)).natAbs
          (min e f) :=
  rfl

theorem key_zero (a : Bool) : key (zero a) = ((0 : ℚ) : WithTop ℚ) := by
  rw [zero, key, value_zero]

theorem inFormat_zero (a : Bool) : (zero a).InFormat :=
  ⟨Nat.two_pow_pos 53, le_rfl, by decide⟩

theorem nonneg_zero (a : Bool) : 0 ≤ zero a :=
  nonneg_finite_iff.mpr (value_zero a minExponent).ge

theorem nonneg_packed (m : Nat) (e : Int) : 0 ≤ packed false m e := by
  have hfinite : ∀ (k : Nat) (g : Int), 0 ≤ finite false k g := by
    intro k g
    rw [nonneg_finite_iff]
    exact mul_nonneg (Nat.cast_nonneg k) (zpow_pos two_pos g).le
  unfold packed
  split_ifs
  · rfl
  · exact hfinite _ _
  · rfl
  · exact hfinite _ _

/-- **What addition does**: the exact sum is rounded once. -/
theorem exists_rounds_add (hx : 0 ≤ value a m e) (hy : 0 ≤ value b n f) :
    (finite a m e + finite b n f).IsTime ∧
      ∃ k g, Rounds (value a m e + value b n f) k g ∧
        key (finite a m e + finite b n f) = key (packed false k g) := by
  have hunit : (0 : ℚ) < 2 ^ min e f := zpow_pos two_pos _
  have hsum := congrArg₂ (· + ·)
    (signedAt_eq (a := a) (m := m) (min_le_left e f))
    (signedAt_eq (a := b) (m := n) (min_le_right e f))
  rw [← add_mul, ← Int.cast_add] at hsum
  rw [finite_add_finite]
  generalize signedAt a m e (min e f) + signedAt b n f (min e f) = s at hsum ⊢
  have hs : 0 ≤ s := by
    have hnonneg : (0 : ℚ) ≤ s * 2 ^ min e f := hsum ▸ add_nonneg hx hy
    exact_mod_cast nonneg_of_mul_nonneg_left hnonneg hunit
  split
  · next hzero =>
      rw [hzero, Int.cast_zero, zero_mul] at hsum
      refine ⟨⟨nonneg_zero _, inFormat_zero _⟩, 0, minExponent, ?_, ?_⟩
      · rw [← hsum]
        exact Rounds.zero
      · rw [key_zero, Rounds.zero.key_packed, Nat.cast_zero, zero_mul,
          cut_of_lt (zpow_pos two_pos _)]
  · next hne =>
      obtain ⟨k, rfl⟩ := Int.eq_ofNat_of_zero_le hs
      have hk : k ≠ 0 := fun hk => hne (congrArg Nat.cast hk)
      obtain ⟨m', g, hrounds, heq⟩ := exists_rounds_dyadic hk false (min e f)
      have hsign : decide ((k : Int) < 0) = false := by simp
      rw [hsign, Int.natAbs_natCast, heq]
      refine ⟨⟨nonneg_packed m' g, hrounds.inFormat_packed false⟩, m', g, ?_,
        rfl⟩
      rw [← hsum]
      exact_mod_cast hrounds

/-! ### The laws -/

theorem infinite_add (hx : 0 ≤ x) : .infinite false + x = .infinite false := by
  rcases eq_of_nonneg hx with rfl | ⟨a, m, e, rfl, -⟩
  · rfl
  · rfl

theorem add_infinite (hx : 0 ≤ x) : x + .infinite false = .infinite false := by
  rcases eq_of_nonneg hx with rfl | ⟨a, m, e, rfl, -⟩
  · rfl
  · rfl

/-- No finite number is reached from anywhere by adding infinity. -/
theorem not_add_infinite_le (hy : y.IsFinite) : ¬ x + .infinite false ≤ y := by
  cases y with
  | finite b n f =>
      cases x with
      | finite a m e => exact Bool.false_ne_true
      | infinite a =>
          cases a with
          | false => exact Bool.false_ne_true
          | true => exact Bool.false_ne_true
      | nan => exact Bool.false_ne_true
  | infinite b => exact hy.elim
  | nan => exact hy.elim

/-- A sum is a number of the format, whatever its parts are. -/
theorem isTime_add (hx : 0 ≤ x) (hy : 0 ≤ y) : (x + y).IsTime := by
  rcases eq_of_nonneg hx with rfl | ⟨a, m, e, rfl, hvalue⟩
  · rw [infinite_add hy]
    exact ⟨rfl, trivial⟩
  · rcases eq_of_nonneg hy with rfl | ⟨b, n, f, rfl, hvalue'⟩
    · rw [add_infinite hx]
      exact ⟨rfl, trivial⟩
    · exact (exists_rounds_add hvalue hvalue').1

/-- **A sum grows with its first part.** -/
theorem add_le_add_of_nonneg (hx : 0 ≤ x) (hy : 0 ≤ y) (hz : 0 ≤ z)
    (h : x ≤ y) : x + z ≤ y + z := by
  have hxz := (isTime_add hx hz).nonneg
  have hyz := (isTime_add hy hz).nonneg
  rw [le_iff_key_le hxz hyz]
  rcases eq_of_nonneg hz with rfl | ⟨c, k, g, rfl, hvalue⟩
  · rw [add_infinite hy]
    exact le_top
  · rcases eq_of_nonneg hy with rfl | ⟨b, n, f, rfl, hvalue'⟩
    · rw [infinite_add hz]
      exact le_top
    · rcases eq_of_nonneg hx with rfl | ⟨a, m, e, rfl, hvalue''⟩
      · exact absurd h Bool.false_ne_true
      · obtain ⟨-, _, _, hrounds, hkey⟩ := exists_rounds_add hvalue'' hvalue
        obtain ⟨-, _, _, hrounds', hkey'⟩ := exists_rounds_add hvalue' hvalue
        rw [hkey, hkey']
        exact hrounds.key_mono hrounds'
          (add_le_add_left (finite_le_finite_iff.mp h) _)

/-- **A sum is not less than its first part.** -/
theorem le_add_of_nonneg (hx : x.IsTime) (hy : 0 ≤ y) : x ≤ x + y := by
  rw [le_iff_key_le hx.nonneg (isTime_add hx.nonneg hy).nonneg]
  rcases eq_of_nonneg hy with rfl | ⟨b, n, f, rfl, hvalue⟩
  · rw [add_infinite hx.nonneg]
    exact le_top
  · rcases eq_of_nonneg hx.nonneg with rfl | ⟨a, m, e, rfl, hvalue'⟩
    · rw [infinite_add hy]
    · obtain ⟨k, g, hself⟩ := exists_rounds_value hvalue'
      obtain ⟨-, k', g', hrounds, hkey⟩ := exists_rounds_add hvalue' hvalue
      rw [hkey, ← hself.key_eq hx.inFormat hvalue']
      exact hself.key_mono hrounds (le_add_of_nonneg_right hvalue)

end Sums

end TableSketch.Binary64
