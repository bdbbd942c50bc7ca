import Mathlib.Algebra.Group.Nat.Defs
import TableSketch.Text.Utf8

/-!
# Reading UTF-8

Written as UTF-8, a character beyond ASCII is a leading byte and up to three bytes
behind it that hold six bits each (`continuation`).  The reader, having read some of
them, has not decided yet which character it will be; `DecodeState.Admits` says which
code points are left.  Every byte that it takes narrows them down (`admits_step_iff`),
and the ranges in its states are chosen so that exactly the characters are left that
are written so (`lead_two`, `lead_three`, `lead_four`).

Two inductions over the missing bytes follow, one for each direction: bytes of a
character are read as it (`decodeFrom_continuation`), and if nothing is dropped, what
has been read are the bytes of a character (`exists_continuation`).  So the texts that
are read without a fault are those that have been written (`decode?_eq_some_iff`).

Where bytes are dropped, what is left is not arbitrary: a character of ASCII comes
from its own byte (`exists_mem_of_mem_decodeLossy`), because what is begun never ends
in one (`DecodeState.Sound`).

## Main results

* `decode?_eq_some_iff` — UTF-8 is what has been written as UTF-8.
* `decode?_encode`, `decodeLossy_encode` — nothing is lost in reading it.
* `exists_mem_of_mem_decodeLossy` — where ASCII in a text comes from.
-/

namespace TableSketch.Text

/-! ## The bytes of a character -/

theorem toNat_ofNat {n : Nat} (h : n.isValidChar) : (Char.ofNat n).toNat = n := by
  rw [Char.ofNat, dif_pos h]
  rfl

/-- The last bytes of a code point, with six bits in each. -/
def continuation : Nat → Nat → List UInt8
  | 0, _ => []
  | m + 1, n => (0x80 + n / 0x40 ^ m % 0x40).toUInt8 :: continuation m n

theorem continuation_succ (m n : Nat) : continuation (m + 1) n =
    (0x80 + n / 0x40 ^ m % 0x40).toUInt8 :: continuation m n :=
  rfl

theorem toNat_continuation (n m : Nat) :
    (0x80 + n / 0x40 ^ m % 0x40).toUInt8.toNat = 0x80 + n / 0x40 ^ m % 0x40 := by
  have hsmall : 0x80 + n / 0x40 ^ m % 0x40 < 256 := by omega
  simpa using hsmall

section Sizes

variable {n : Nat}

theorem encodeChar_one (hhigh : n < 0x80) :
    encodeChar (Char.ofNat n) = [n.toUInt8] := by
  have h : n.isValidChar := Or.inl (by omega)
  rw [encodeChar, toNat_ofNat h]
  exact if_pos hhigh

theorem encodeChar_two (hlow : 0x80 ≤ n) (hhigh : n < 0x800) :
    encodeChar (Char.ofNat n) = (0xC0 + n / 0x40).toUInt8 :: continuation 1 n := by
  have h : n.isValidChar := Or.inl (by omega)
  rw [encodeChar, toNat_ofNat h]
  simp only [if_neg (show ¬ n < 0x80 by omega), if_pos hhigh]
  simp [continuation]

theorem encodeChar_three (h : n.isValidChar) (hlow : 0x800 ≤ n)
    (hhigh : n < 0x10000) :
    encodeChar (Char.ofNat n) =
      (0xE0 + n / 0x1000).toUInt8 :: continuation 2 n := by
  rw [encodeChar, toNat_ofNat h]
  simp only [if_neg (show ¬ n < 0x80 by omega),
    if_neg (show ¬ n < 0x800 by omega), if_pos hhigh]
  simp [continuation]

theorem encodeChar_four (h : n.isValidChar) (hlow : 0x10000 ≤ n) :
    encodeChar (Char.ofNat n) =
      (0xF0 + n / 0x40000).toUInt8 :: continuation 3 n := by
  rw [encodeChar, toNat_ofNat h]
  simp only [if_neg (show ¬ n < 0x80 by omega),
    if_neg (show ¬ n < 0x800 by omega), if_neg (show ¬ n < 0x10000 by omega)]
  simp [continuation]

end Sizes

/-! ## Characters that are begun -/

namespace DecodeState

/-- The code points that can still come of a character that is begun: their first bits
have been read, and the next six are in the range of the next byte. -/
def Admits : DecodeState → Nat → Prop
  | .ready, _ => False
  | .awaiting missing bits low high, n =>
    n / 0x40 ^ missing = bits ∧
      low ≤ 0x80 + n / 0x40 ^ (missing - 1) % 0x40 ∧
      0x80 + n / 0x40 ^ (missing - 1) % 0x40 ≤ high

/-- The leading byte of two bytes. -/
theorem lead_two {b : Nat} (hb : 0xC2 ≤ b) (hb' : b < 0xE0) : ∃ bits low high,
    lead b = { state := .awaiting 1 bits low high } ∧ 0x80 ≤ low ∧ high ≤ 0xBF ∧
      ∀ n, (awaiting 1 bits low high).Admits n ↔
        n.isValidChar ∧ 0x80 ≤ n ∧ n < 0x800 ∧ 0xC0 + n / 0x40 = b := by
  refine ⟨b - 0xC0, 0x80, 0xBF, ?_, by omega, by omega, fun n => ?_⟩
  · rw [lead, if_neg (by omega), if_neg (by omega), if_pos hb']
  · unfold Admits Nat.isValidChar
    omega

/-- The leading byte of three bytes.  The ranges leave out overlong forms (`E0`) and
surrogates (`ED`). -/
theorem lead_three {b : Nat} (hb : 0xE0 ≤ b) (hb' : b < 0xF0) : ∃ bits low high,
    lead b = { state := .awaiting 2 bits low high } ∧ 0x80 ≤ low ∧ high ≤ 0xBF ∧
      ∀ n, (awaiting 2 bits low high).Admits n ↔
        n.isValidChar ∧ 0x800 ≤ n ∧ n < 0x10000 ∧ 0xE0 + n / 0x1000 = b := by
  by_cases hfirst : b = 0xE0
  · subst hfirst
    refine ⟨0, 0xA0, 0xBF, rfl, by omega, by omega, fun n => ?_⟩
    unfold Admits Nat.isValidChar
    omega
  by_cases hsurrogate : b = 0xED
  · subst hsurrogate
    refine ⟨0xD, 0x80, 0x9F, rfl, by omega, by omega, fun n => ?_⟩
    unfold Admits Nat.isValidChar
    omega
  · refine ⟨b - 0xE0, 0x80, 0xBF, ?_, by omega, by omega, fun n => ?_⟩
    · rw [lead, if_neg (by omega), if_neg (by omega), if_neg (by omega),
        if_neg hfirst, if_neg hsurrogate, if_pos hb']
    · unfold Admits Nat.isValidChar
      omega

/-- The leading byte of four bytes.  The ranges leave out overlong forms (`F0`) and what
is beyond the last code point (`F4`). -/
theorem lead_four {b : Nat} (hb : 0xF0 ≤ b) (hb' : b ≤ 0xF4) : ∃ bits low high,
    lead b = { state := .awaiting 3 bits low high } ∧ 0x80 ≤ low ∧ high ≤ 0xBF ∧
      ∀ n, (awaiting 3 bits low high).Admits n ↔
        n.isValidChar ∧ 0x10000 ≤ n ∧ 0xF0 + n / 0x40000 = b := by
  by_cases hfirst : b = 0xF0
  · subst hfirst
    refine ⟨0, 0x90, 0xBF, rfl, by omega, by omega, fun n => ?_⟩
    unfold Admits Nat.isValidChar
    omega
  by_cases hlast : b = 0xF4
  · subst hlast
    refine ⟨4, 0x80, 0x8F, rfl, by omega, by omega, fun n => ?_⟩
    unfold Admits Nat.isValidChar
    omega
  · refine ⟨b - 0xF0, 0x80, 0xBF, ?_, by omega, by omega, fun n => ?_⟩
    · rw [lead, if_neg (by omega), if_neg (by omega), if_neg (by omega),
        if_neg (by omega), if_neg (by omega), if_neg (by omega), if_neg hfirst,
        if_pos (by omega)]
    · unfold Admits Nat.isValidChar
      omega

/-- What can begin with a byte: a character of ASCII, nothing, or characters that the
ranges leave over. -/
theorem lead_cases (b : Nat) :
    (b < 0x80 ∧ lead b = { state := .ready, char := some (Char.ofNat b) }) ∨
      lead b = { state := .ready, dropped := true } ∨
      ∃ m bits low high, lead b = { state := .awaiting (m + 1) bits low high } ∧
        0x80 ≤ low ∧ high ≤ 0xBF ∧
        ∀ n, (awaiting (m + 1) bits low high).Admits n →
          n.isValidChar ∧ 0x80 ≤ n ∧
            encodeChar (Char.ofNat n) = b.toUInt8 :: continuation (m + 1) n := by
  by_cases hascii : b < 0x80
  · exact Or.inl ⟨hascii, if_pos hascii⟩
  right
  by_cases hstray : b < 0xC2
  · left
    rw [lead, if_neg hascii, if_pos hstray]
  by_cases htwo : b < 0xE0
  · obtain ⟨bits, low, high, hlead, hlow, hhigh, hleft⟩ := lead_two (by omega) htwo
    refine Or.inr ⟨0, bits, low, high, hlead, hlow, hhigh, fun n hn => ?_⟩
    obtain ⟨hvalid, hn, hn', rfl⟩ := (hleft n).mp hn
    exact ⟨hvalid, hn, encodeChar_two hn hn'⟩
  by_cases hthree : b < 0xF0
  · obtain ⟨bits, low, high, hlead, hlow, hhigh, hleft⟩ := lead_three (by omega) hthree
    refine Or.inr ⟨1, bits, low, high, hlead, hlow, hhigh, fun n hn => ?_⟩
    obtain ⟨hvalid, hn, hn', rfl⟩ := (hleft n).mp hn
    exact ⟨hvalid, by omega, encodeChar_three hvalid hn hn'⟩
  by_cases hfour : b ≤ 0xF4
  · obtain ⟨bits, low, high, hlead, hlow, hhigh, hleft⟩ := lead_four (by omega) hfour
    refine Or.inr ⟨2, bits, low, high, hlead, hlow, hhigh, fun n hn => ?_⟩
    obtain ⟨hvalid, hn, rfl⟩ := (hleft n).mp hn
    exact ⟨hvalid, by omega, encodeChar_four hvalid hn⟩
  · left
    rw [lead, if_neg hascii, if_neg hstray, if_neg htwo, if_neg (by omega),
      if_neg (by omega), if_neg hthree, if_neg (by omega), if_neg (by omega),
      if_neg (by omega)]

/-- Every character beyond ASCII is left over behind its leading byte. -/
theorem exists_lead {n : Nat} (hn : n.isValidChar) (hwide : 0x80 ≤ n) :
    ∃ b m bits low high, b < 256 ∧
      encodeChar (Char.ofNat n) = b.toUInt8 :: continuation (m + 1) n ∧
      lead b = { state := .awaiting (m + 1) bits low high } ∧
      0x80 ≤ low ∧ high ≤ 0xBF ∧ (awaiting (m + 1) bits low high).Admits n := by
  have hlast : n < 0x110000 := by
    rcases hn with hn | hn <;> omega
  by_cases htwo : n < 0x800
  · have hbytes := encodeChar_two hwide htwo
    obtain ⟨bits, low, high, hlead, hlow, hhigh, hleft⟩ :=
      @lead_two (0xC0 + n / 0x40) (by omega) (by omega)
    exact ⟨_, 0, bits, low, high, by omega, hbytes, hlead, hlow, hhigh,
      (hleft n).mpr ⟨hn, hwide, htwo, rfl⟩⟩
  by_cases hthree : n < 0x10000
  · have hbytes := encodeChar_three hn (by omega) hthree
    obtain ⟨bits, low, high, hlead, hlow, hhigh, hleft⟩ :=
      @lead_three (0xE0 + n / 0x1000) (by omega) (by omega)
    exact ⟨_, 1, bits, low, high, by omega, hbytes, hlead, hlow, hhigh,
      (hleft n).mpr ⟨hn, by omega, hthree, rfl⟩⟩
  · have hbytes := encodeChar_four hn (by omega)
    obtain ⟨bits, low, high, hlead, hlow, hhigh, hleft⟩ :=
      @lead_four (0xF0 + n / 0x40000) (by omega) (by omega)
    exact ⟨_, 2, bits, low, high, by omega, hbytes, hlead, hlow, hhigh,
      (hleft n).mpr ⟨hn, by omega, rfl⟩⟩

section Steps

variable {m n bits low high b : Nat}

theorem admits_iff :
    (awaiting (m + 1) bits low high).Admits n ↔ n / 0x40 ^ (m + 1) = bits ∧
      low ≤ 0x80 + n / 0x40 ^ m % 0x40 ∧ 0x80 + n / 0x40 ^ m % 0x40 ≤ high :=
  Iff.rfl

/-- The last byte of a character completes it. -/
theorem step_last (hlow : low ≤ b) (hhigh : b ≤ high) :
    (awaiting 1 bits low high).step b =
      { state := .ready, char := some (Char.ofNat (bits * 0x40 + (b - 0x80))) } := by
  unfold step
  exact if_pos ⟨hlow, hhigh⟩

/-- The bytes in front of it leave all ranges open. -/
theorem step_inner (hlow : low ≤ b) (hhigh : b ≤ high) :
    (awaiting (m + 2) bits low high).step b =
      { state := .awaiting (m + 1) (bits * 0x40 + (b - 0x80)) 0x80 0xBF } := by
  unfold step
  exact if_pos ⟨hlow, hhigh⟩

/-- A byte out of range is read afresh, and what was begun is dropped. -/
theorem step_broken (h : ¬ (low ≤ b ∧ b ≤ high)) :
    (awaiting m bits low high).step b = { lead b with dropped := true } := by
  unfold step
  exact if_neg h

/-- **A byte takes six bits** off the code points that are left. -/
theorem admits_step_iff (hlow : 0x80 ≤ low) (hb : low ≤ b) (hb' : b ≤ high)
    (hhigh : high ≤ 0xBF) :
    (awaiting (m + 1) (bits * 0x40 + (b - 0x80)) 0x80 0xBF).Admits n ↔
      (awaiting (m + 2) bits low high).Admits n ∧
        0x80 + n / 0x40 ^ (m + 1) % 0x40 = b := by
  have hdiv : n / 0x40 ^ (m + 2) = n / 0x40 ^ (m + 1) / 0x40 := by
    rw [Nat.pow_succ, Nat.div_div_eq_div_mul]
  rw [admits_iff, admits_iff, hdiv]
  generalize n / 0x40 ^ (m + 1) = q
  generalize n / 0x40 ^ m = r
  omega

end Steps

end DecodeState

/-! ## Reading what was written -/

theorem decodeFrom_cons (s : DecodeState) (b : UInt8) (bs : List UInt8) :
    decodeFrom s (b :: bs) =
      ((s.step b.toNat).char.toList ++ (decodeFrom (s.step b.toNat).state bs).1,
        ((s.step b.toNat).dropped || (decodeFrom (s.step b.toNat).state bs).2)) := by
  cases s <;> rfl

section Runs

open DecodeState

variable {m bits low high : Nat} {c : Char} {cs : List Char} {bs : List UInt8}

/-- The bytes that are missing complete their character. -/
theorem decodeFrom_continuation {n : Nat}
    (h : (awaiting (m + 1) bits low high).Admits n) (hlow : 0x80 ≤ low)
    (hhigh : high ≤ 0xBF) (bs : List UInt8) :
    decodeFrom (.awaiting (m + 1) bits low high) (continuation (m + 1) n ++ bs) =
      (Char.ofNat n :: (decodeFrom .ready bs).1, (decodeFrom .ready bs).2) := by
  induction m generalizing bits low high with
  | zero =>
      obtain ⟨hbits, hb, hb'⟩ := admits_iff.mp h
      have hn : bits * 0x40 + (0x80 + n / 0x40 ^ 0 % 0x40 - 0x80) = n := by omega
      rw [continuation, List.cons_append, decodeFrom_cons, toNat_continuation,
        step_last hb hb', hn]
      rfl
  | succ m ih =>
      obtain ⟨-, hb, hb'⟩ := admits_iff.mp h
      have hadmits := (admits_step_iff hlow hb hb' hhigh).mpr ⟨h, rfl⟩
      rw [continuation, List.cons_append, decodeFrom_cons, toNat_continuation,
        step_inner hb hb', ih hadmits (by omega) (by omega)]
      rfl

/-- A byte as a number, and back. -/
theorem toNat_toUInt8 {n : Nat} (h : n < 256) : n.toUInt8.toNat = n := by
  simpa using h

/-- A character is read, and then what follows it. -/
theorem decodeFrom_encodeChar (c : Char) (bs : List UInt8) :
    decodeFrom .ready (encodeChar c ++ bs) =
      (c :: (decodeFrom .ready bs).1, (decodeFrom .ready bs).2) := by
  have hc := Char.ofNat_toNat c
  by_cases hascii : c.toNat < 0x80
  · have hlead : lead c.toNat = { state := .ready, char := some c } := by
      rw [lead, if_pos hascii, hc]
    rw [← hc, encodeChar_one hascii, List.singleton_append, decodeFrom_cons,
      toNat_toUInt8 (by omega), hc, step, hlead]
    rfl
  · have hvalid : c.toNat.isValidChar := c.valid
    obtain ⟨b, m, bits, low, high, hb, hbytes, hlead, hlow, hhigh, hadmits⟩ :=
      exists_lead hvalid (by omega)
    rw [hc] at hbytes
    rw [hbytes, List.cons_append, decodeFrom_cons, toNat_toUInt8 hb, step, hlead,
      decodeFrom_continuation hadmits hlow hhigh, hc]
    rfl

/-- What was written is read. -/
theorem decodeFrom_encode (cs : List Char) :
    decodeFrom .ready (encode cs) = (cs, false) := by
  induction cs with
  | nil => rfl
  | cons c cs ih =>
      rw [encode, List.flatMap_cons, decodeFrom_encodeChar, ← encode, ih]

/-! ## Reading without a fault -/

/-- What completes a character without a fault are the bytes that were missing. -/
theorem exists_continuation (hlow : 0x80 ≤ low) (hhigh : high ≤ 0xBF)
    (h : decodeFrom (.awaiting (m + 1) bits low high) bs = (cs, false)) :
    ∃ n rest cs', (awaiting (m + 1) bits low high).Admits n ∧
      bs = continuation (m + 1) n ++ rest ∧ cs = Char.ofNat n :: cs' ∧
      decodeFrom .ready rest = (cs', false) := by
  induction m generalizing bits low high bs with
  | zero =>
      cases bs with
      | nil => cases h
      | cons b bs =>
          rw [decodeFrom_cons] at h
          by_cases hb : low ≤ b.toNat ∧ b.toNat ≤ high
          · rw [step_last hb.1 hb.2] at h
            obtain ⟨rfl, hrest⟩ := Prod.mk.inj h
            have hn : 0x80 + (bits * 0x40 + (b.toNat - 0x80)) / 0x40 ^ 0 % 0x40 =
                b.toNat := by
              omega
            refine ⟨bits * 0x40 + (b.toNat - 0x80), bs, _, ?_, ?_, rfl,
              Prod.ext rfl hrest⟩
            · rw [admits_iff, hn]
              omega
            · rw [continuation, hn]
              simp [continuation]
          · rw [step_broken hb] at h
            cases (Prod.mk.inj h).2
  | succ m ih =>
      cases bs with
      | nil => cases h
      | cons b bs =>
          rw [decodeFrom_cons] at h
          by_cases hb : low ≤ b.toNat ∧ b.toNat ≤ high
          · rw [step_inner hb.1 hb.2] at h
            obtain ⟨n, rest, cs', hadmits, rfl, hcs, hrest⟩ :=
              ih (by omega) (by omega) h
            obtain ⟨hadmits, hn⟩ := (admits_step_iff hlow hb.1 hb.2 hhigh).mp hadmits
            refine ⟨n, rest, cs', hadmits, ?_, hcs, hrest⟩
            rw [continuation_succ (m + 1), hn]
            simp
          · rw [step_broken hb] at h
            cases (Prod.mk.inj h).2

/-- What is read without a fault begins with the bytes of a character, unless it is
empty. -/
theorem exists_encodeChar {b : UInt8}
    (h : decodeFrom .ready (b :: bs) = (cs, false)) :
    ∃ c rest cs', b :: bs = encodeChar c ++ rest ∧ cs = c :: cs' ∧
      decodeFrom .ready rest = (cs', false) := by
  have hb : b.toNat.toUInt8 = b := by simp
  rw [decodeFrom_cons, step] at h
  rcases lead_cases b.toNat with ⟨hascii, hlead⟩ | hlead |
    ⟨m, bits, low, high, hlead, hlow, hhigh, hleft⟩
  · rw [hlead] at h
    obtain ⟨rfl, hrest⟩ := Prod.mk.inj h
    refine ⟨Char.ofNat b.toNat, bs, _, ?_, rfl, Prod.ext rfl hrest⟩
    rw [encodeChar_one hascii, hb]
    rfl
  · rw [hlead] at h
    cases (Prod.mk.inj h).2
  · rw [hlead] at h
    obtain ⟨n, rest, cs', hadmits, rfl, hcs, hrest⟩ :=
      exists_continuation hlow hhigh h
    obtain ⟨-, -, hbytes⟩ := hleft n hadmits
    refine ⟨Char.ofNat n, rest, cs', ?_, hcs, hrest⟩
    rw [hbytes, hb]
    rfl

/-- What is read without a fault was written. -/
theorem eq_encode_of_decodeFrom (h : decodeFrom .ready bs = (cs, false)) :
    bs = encode cs := by
  induction cs generalizing bs with
  | nil =>
      cases bs with
      | nil => rfl
      | cons b bs =>
          obtain ⟨c, rest, cs', -, hcs, -⟩ := exists_encodeChar h
          cases hcs
  | cons c cs ih =>
      cases bs with
      | nil => cases h
      | cons b bs =>
          obtain ⟨c', rest, cs', hbytes, hcs, hrest⟩ := exists_encodeChar h
          obtain ⟨rfl, rfl⟩ := List.cons.inj hcs
          rw [hbytes, ih hrest]
          rfl

/-- **UTF-8.**  Bytes are read without a fault if and only if they are those of a text,
and then it is that text. -/
theorem decode?_eq_some_iff : decode? bs = some cs ↔ bs = encode cs := by
  constructor
  · intro h
    unfold decode? at h
    split at h
    · next cs' hread =>
        obtain rfl := Option.some.inj h
        exact eq_encode_of_decodeFrom hread
    · cases h
  · rintro rfl
    rw [decode?, decodeFrom_encode]

theorem decode?_encode (cs : List Char) : decode? (encode cs) = some cs :=
  decode?_eq_some_iff.mpr rfl

/-- Nothing is dropped in reading a text. -/
theorem decodeLossy_encode (cs : List Char) : decodeLossy (encode cs) = cs := by
  rw [decodeLossy, decodeFrom_encode]

/-! ## What is left of other bytes -/

/-- If a character is begun, whatever can come of it is a character, and none of
ASCII. -/
def DecodeState.Sound : DecodeState → Prop
  | .ready => True
  | .awaiting missing bits low high =>
    ∃ m, missing = m + 1 ∧ 0x80 ≤ low ∧ high ≤ 0xBF ∧
      ∀ n, (awaiting missing bits low high).Admits n → n.isValidChar ∧ 0x80 ≤ n

theorem sound_lead (b : Nat) : (lead b).state.Sound ∧
    ∀ c, (lead b).char = some c → c.toNat = b := by
  rcases lead_cases b with ⟨hascii, hlead⟩ | hlead |
    ⟨m, bits, low, high, hlead, hlow, hhigh, hleft⟩
  · rw [hlead]
    refine ⟨trivial, fun c hc => ?_⟩
    obtain rfl := Option.some.inj hc
    exact toNat_ofNat (Or.inl (by omega))
  · rw [hlead]
    exact ⟨trivial, fun c hc => by cases hc⟩
  · rw [hlead]
    refine ⟨⟨m, rfl, hlow, hhigh, fun n hn => ?_⟩, fun c hc => by cases hc⟩
    exact ⟨(hleft n hn).1, (hleft n hn).2.1⟩

/-- **One byte.**  A character of ASCII comes from the byte that is read. -/
theorem DecodeState.Sound.step {s : DecodeState} (h : s.Sound) (b : Nat) :
    (s.step b).state.Sound ∧
      ∀ c, (s.step b).char = some c → c.toNat < 0x80 → c.toNat = b := by
  cases s with
  | ready =>
      obtain ⟨hsound, hchar⟩ := sound_lead b
      exact ⟨hsound, fun c hc _ => hchar c hc⟩
  | awaiting missing bits low high =>
      obtain ⟨m, rfl, hlow, hhigh, hleft⟩ := h
      by_cases hb : low ≤ b ∧ b ≤ high
      · cases m with
        | zero =>
            rw [step_last hb.1 hb.2]
            refine ⟨trivial, fun c hc hascii => ?_⟩
            obtain rfl := Option.some.inj hc
            obtain ⟨hvalid, hwide⟩ := hleft (bits * 0x40 + (b - 0x80))
              (admits_iff.mpr (by omega))
            rw [toNat_ofNat hvalid] at hascii
            omega
        | succ m =>
            rw [step_inner hb.1 hb.2]
            refine ⟨⟨m, rfl, by omega, by omega, fun n hn => ?_⟩,
              fun c hc => by cases hc⟩
            exact hleft n ((admits_step_iff hlow hb.1 hb.2 hhigh).mp hn).1
      · rw [step_broken hb]
        obtain ⟨hsound, hchar⟩ := sound_lead b
        exact ⟨hsound, fun c hc _ => hchar c hc⟩

theorem DecodeState.Sound.exists_mem {s : DecodeState} (h : s.Sound)
    (hc : c ∈ (decodeFrom s bs).1) (hascii : c.toNat < 0x80) :
    ∃ b ∈ bs, b.toNat = c.toNat := by
  induction bs generalizing s with
  | nil => cases s <;> cases hc
  | cons b bs ih =>
      obtain ⟨hsound, hchar⟩ := h.step b.toNat
      rw [decodeFrom_cons] at hc
      rcases List.mem_append.mp hc with hc | hc
      · exact ⟨b, List.mem_cons_self,
          (hchar c (Option.mem_toList.mp hc) hascii).symm⟩
      · obtain ⟨b', hb', hbyte⟩ := ih hsound hc
        exact ⟨b', List.mem_cons_of_mem b hb', hbyte⟩

/-- **Where ASCII comes from.**  However broken the bytes are, a character of ASCII is
read from its own byte. -/
theorem exists_mem_of_mem_decodeLossy (hc : c ∈ decodeLossy bs)
    (hascii : c.toNat < 0x80) : ∃ b ∈ bs, b.toNat = c.toNat :=
  DecodeState.Sound.exists_mem (s := .ready) trivial hc hascii

end Runs

end TableSketch.Text
