import TableSketch.Proofs.Storage.Writing
import TableSketch.Proofs.Text.Decoding

/-!
# Reading around broken bytes

A byte either begins a character or can only go on with one (`IsTail`), and no
character begins with a byte of the second kind.  So wherever the reader stands,
it takes the first byte of a character for what it is: if something was begun
before, that is dropped, and the byte is read afresh.  Behind a character it stands
between characters again.  Text among broken bytes is therefore read as it stands,
and what is read from the bytes on both sides of it is what would be read from them
alone (`decodeLossy_append_encode_append`).

How the lines of a text end is not seen from what is read: a text without carriage
returns is read from its own bytes, and from those in which its lines end in one of
the other ways (`unifyNewlines_withLineEnds`).

## Main results

* `decodeLossy_append_encode_append` — text among any bytes.
* `unifyNewlines_withLineEnds` — line ends that are unified.
* `Storage.readSketch_recovers` — both, for the file of a sketch.
-/

namespace TableSketch

namespace Text

variable {s : DecodeState} {b : UInt8} {c : Char} {cs eol : List Char}

/-! ## Bytes part by part -/

/-- Where the reader stands behind some bytes. -/
def DecodeState.behind (s : DecodeState) (bs : List UInt8) : DecodeState :=
  bs.foldl (fun s b => (s.step b.toNat).state) s

theorem DecodeState.Sound.behind (h : s.Sound) (bs : List UInt8) :
    (s.behind bs).Sound := by
  induction bs generalizing s with
  | nil => exact h
  | cons b bs ih => exact ih (h.step b.toNat).1

/-- What has been read is not touched by what follows. -/
theorem fst_decodeFrom_append (s : DecodeState) (xs ys : List UInt8) :
    (decodeFrom s (xs ++ ys)).1 =
      (decodeFrom s xs).1 ++ (decodeFrom (s.behind xs) ys).1 := by
  induction xs generalizing s with
  | nil =>
      have hnone : (decodeFrom s []).1 = [] := by cases s <;> rfl
      rw [hnone]
      rfl
  | cons x xs ih =>
      rw [List.cons_append, decodeFrom_cons, decodeFrom_cons, ih,
        List.append_assoc]
      rfl

/-! ## Where characters begin -/

/-- A byte that can only go on with a character. -/
def IsTail (b : UInt8) : Prop :=
  0x80 ≤ b.toNat ∧ b.toNat ≤ 0xBF

theorem lead_of_isTail (h : IsTail b) :
    DecodeState.lead b.toNat = { state := .ready, dropped := true } := by
  obtain ⟨hlow, hhigh⟩ := h
  rw [DecodeState.lead, if_neg (by omega), if_pos (by omega)]

/-- No character begins with such a byte. -/
theorem exists_encodeChar_eq_cons (c : Char) :
    ∃ b bs, encodeChar c = b :: bs ∧ ¬ IsTail b := by
  have hc := Char.ofNat_toNat c
  by_cases hascii : c.toNat < 0x80
  · have hbytes := encodeChar_one hascii
    rw [hc] at hbytes
    refine ⟨_, [], hbytes, ?_⟩
    intro htail
    have hlow := htail.1
    rw [toNat_toUInt8 (by omega)] at hlow
    omega
  · obtain ⟨b, m, bits, low, high, hb, hbytes, hlead, -⟩ :=
      DecodeState.exists_lead (n := c.toNat) c.valid (by omega)
    rw [hc] at hbytes
    refine ⟨_, _, hbytes, ?_⟩
    intro htail
    have hstray := lead_of_isTail htail
    rw [toNat_toUInt8 hb, hlead] at hstray
    cases hstray

/-- **Any other byte is read afresh**, wherever the reader stands. -/
theorem fst_decodeFrom_of_not_isTail (h : s.Sound) (hb : ¬ IsTail b)
    (bs : List UInt8) :
    (decodeFrom s (b :: bs)).1 = (decodeFrom .ready (b :: bs)).1 := by
  cases s with
  | ready => rfl
  | awaiting missing bits low high =>
      obtain ⟨m, rfl, hlow, hhigh, -⟩ := h
      have hbroken : ¬ (low ≤ b.toNat ∧ b.toNat ≤ high) :=
        fun hrange => hb ⟨by omega, by omega⟩
      rw [decodeFrom_cons, decodeFrom_cons, DecodeState.step_broken hbroken]
      rfl

/-! ## Text among other bytes -/

/-- Text is read, and then what follows it. -/
theorem fst_decodeFrom_encode_append (cs : List Char) (bs : List UInt8) :
    (decodeFrom .ready (encode cs ++ bs)).1 = cs ++ decodeLossy bs := by
  induction cs with
  | nil => rfl
  | cons c cs ih =>
      rw [encode, List.flatMap_cons, List.append_assoc, decodeFrom_encodeChar,
        ← encode, ih]
      rfl

/-- **Broken bytes do not damage text next to them.**  Whatever bytes stand on both
sides of a text, it is read as it stands, and they are read as if it was not there. -/
theorem decodeLossy_append_encode_append (hcs : cs ≠ []) (xs ys : List UInt8) :
    decodeLossy (xs ++ encode cs ++ ys) =
      decodeLossy xs ++ cs ++ decodeLossy ys := by
  obtain ⟨c, rest, rfl⟩ := List.exists_cons_of_ne_nil hcs
  obtain ⟨b, bs, hbytes, htail⟩ := exists_encodeChar_eq_cons c
  have hsound : (DecodeState.ready.behind xs).Sound :=
    DecodeState.Sound.behind (s := .ready) trivial xs
  have hfresh : (decodeFrom (DecodeState.ready.behind xs)
      (encode (c :: rest) ++ ys)).1 =
        (decodeFrom .ready (encode (c :: rest) ++ ys)).1 := by
    rw [encode, List.flatMap_cons, hbytes]
    exact fst_decodeFrom_of_not_isTail hsound htail _
  rw [List.append_assoc, decodeLossy, fst_decodeFrom_append, hfresh,
    fst_decodeFrom_encode_append, ← decodeLossy, List.append_assoc]

/-! ## Line ends -/

/-- The ways to end a line. -/
def lineEnds : List (List Char) :=
  [['\n'], ['\r', '\n'], ['\r']]

/-- A text whose lines end in some way. -/
def withLineEnds (eol cs : List Char) : List Char :=
  cs.flatMap fun c => if c = '\n' then eol else [c]

theorem withLineEnds_feed (eol cs : List Char) :
    withLineEnds eol ('\n' :: cs) = eol ++ withLineEnds eol cs :=
  rfl

theorem withLineEnds_cons (h : c ≠ '\n') (eol cs : List Char) :
    withLineEnds eol (c :: cs) = c :: withLineEnds eol cs := by
  rw [withLineEnds, List.flatMap_cons, if_neg h]
  rfl

theorem unifyNewlines_cons (h : c ≠ '\r') (cs : List Char) :
    unifyNewlines (c :: cs) = c :: unifyNewlines cs := by
  rw [unifyNewlines]
  · exact fun _ hc _ => h hc
  · exact h

/-- A carriage return ends a line by itself, unless a line feed is behind it. -/
theorem unifyNewlines_return (h : '\n' ∉ cs) :
    unifyNewlines ('\r' :: cs) = '\n' :: unifyNewlines cs := by
  rw [unifyNewlines]
  rintro rest rfl
  exact h List.mem_cons_self

theorem feed_not_mem_withLineEnds (cs : List Char) :
    '\n' ∉ withLineEnds ['\r'] cs := by
  intro hmem
  obtain ⟨c, -, hc⟩ := List.mem_flatMap.mp hmem
  split at hc
  · cases List.mem_singleton.mp hc
  · next hne => exact hne (List.mem_singleton.mp hc).symm

/-- The end of a line becomes a line feed. -/
theorem unifyNewlines_lineEnd (heol : eol ∈ lineEnds) (cs : List Char) :
    unifyNewlines (eol ++ withLineEnds eol cs) =
      '\n' :: unifyNewlines (withLineEnds eol cs) := by
  simp only [lineEnds, List.mem_cons, List.not_mem_nil, or_false] at heol
  rcases heol with rfl | rfl | rfl
  · exact unifyNewlines_cons (by decide) _
  · rfl
  · exact unifyNewlines_return (feed_not_mem_withLineEnds cs)

/-- **How lines end is not seen** from what is read. -/
theorem unifyNewlines_withLineEnds (heol : eol ∈ lineEnds) (h : '\r' ∉ cs) :
    unifyNewlines (withLineEnds eol cs) = cs := by
  induction cs with
  | nil => rfl
  | cons c cs ih =>
      rw [List.mem_cons, not_or] at h
      by_cases hc : c = '\n'
      · subst hc
        rw [withLineEnds_feed, unifyNewlines_lineEnd heol, ih h.2]
      · rw [withLineEnds_cons hc, unifyNewlines_cons (Ne.symm h.1), ih h.2]

end Text

/-! ## Files -/

namespace Storage

open Text

/-- **What is read from the file of a sketch** is the text of its bytes, with line ends
unified.  Text in it that stands among other bytes is read as it stands, and they are
read as if it was not there; and a text without carriage returns is read from its
bytes, in whichever way its lines end in the file. -/
theorem readSketch_recovers :
    (∀ (s : Storage) (p : Path) (content : List UInt8),
      s.find p = .ok (some (.file content)) →
      s.readSketch p =
        .ok (String.ofList (unifyNewlines (decodeLossy content)))) ∧
    (∀ (xs ys : List UInt8) (cs : List Char), cs ≠ [] →
      decodeLossy (xs ++ encode cs ++ ys) =
        decodeLossy xs ++ cs ++ decodeLossy ys) ∧
    ∀ (s : Storage) (p : Path) (text : String), '\r' ∉ text.toList →
      ∀ eol ∈ lineEnds,
        s.find p = .ok (some (.file (encode (withLineEnds eol text.toList)))) →
        s.readSketch p = .ok text := by
  refine ⟨fun s p content hfind => readSketch_of_find hfind,
    fun xs ys cs hcs => decodeLossy_append_encode_append hcs xs ys, ?_⟩
  intro s p text htext eol heol hfind
  rw [readSketch_of_find hfind, sketchText, decodeLossy_encode,
    unifyNewlines_withLineEnds heol htext, String.ofList_toList]

/-- A sketch between a character that breaks off and a byte that goes on with none, and
one whose lines end with two characters. -/
def damagedFiles : Storage where
  tree := ⟨[(["a.d2"], .file ([0xE2, 0x82] ++ encode ['é', ':'] ++ [0x82, 0x7B])),
    (["b.d2"], .file (encode (withLineEnds ['\r', '\n'] "id: int\nn: text".toList)))]⟩

/-- No sign of them is lost. -/
theorem readSketch_recovers_of_damagedFiles :
    damagedFiles.readSketch (.ofString "a.d2") = .ok r"é:{" ∧
      damagedFiles.readSketch (.ofString "b.d2") = .ok "id: int\nn: text" := by
  obtain ⟨hread, hamong, hends⟩ := readSketch_recovers
  constructor
  · have hfind : damagedFiles.find (.ofString "a.d2") =
        .ok (some (.file ([0xE2, 0x82] ++ encode ['é', ':'] ++ [0x82, 0x7B]))) := by
      decide
    rw [hread _ _ _ hfind, hamong _ _ _ (by decide)]
    decide
  · exact hends damagedFiles (.ofString "b.d2") "id: int\nn: text" (by decide)
      ['\r', '\n'] (by decide) (by decide)

end Storage

end TableSketch
