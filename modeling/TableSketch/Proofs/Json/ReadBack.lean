import TableSketch.Json.Reader
import TableSketch.Json.Writer

/-!
# Written values are read back

A value that was written over several lines is read back as it was, whatever
characters its strings hold (`read?_pretty`).  Numbers are left out: a number
goes on as long as digits follow, so that what stands behind it matters, and
the documents of this program hold none.

The reader is not the writer turned round.  It knows more escapes than are
ever written, and it joins two escapes by code point in a row to one
character if they are the halves of one.  That is harmless because a character
is written by code point only if it is a control, which is no half of anything
(`readString_code`).  But it looks six characters ahead, so what follows a
control has to be written properly, too (`Continues`).

Around values there are blanks only, which the reader passes over.  So the
text of a value is read as the value whatever stands in front of it and behind
it (`IsReadAs`), and a depth as great as the text is long suffices.

## Main results

* `readString_written` — a string is read back up to its closing mark.
* `read?_pretty` — a value without numbers is read back.
-/

namespace TableSketch.Json

open Text

/-! ## Strings -/

/-- The digits of a control read back as its code point. -/
theorem hex4?_paddedDigits : ∀ n < 0x20,
    paddedDigits 16 4 n =
        ['0', '0', Nat.digitChar (n / 16), Nat.digitChar (n % 16)] ∧
      hex4? '0' '0' (Nat.digitChar (n / 16)) (Nat.digitChar (n % 16)) =
        some n := by
  decide

/-- The forms that a character can have in a string. -/
inductive IsForm (c : Char) : List Char → Prop where
  | short (d : Char) (h : shortEscape? d = some c) : IsForm c ['\\', d]
  | code (x y : Char) (hc : c.toNat < 0x20)
      (h : hex4? '0' '0' x y = some c.toNat) :
      IsForm c ['\\', 'u', '0', '0', x, y]
  | itself (hmark : c ≠ '"') (hescape : c ≠ '\\') (hc : 0x20 ≤ c.toNat) :
      IsForm c [c]

theorem isForm_stringChar (c : Char) : IsForm c (stringChar c) := by
  have heq : ∀ d : Char, (c.toNat == d.toNat) = true → c = d := by
    intro d h
    exact Char.toNat_inj.mp (beq_iff_eq.mp h)
  unfold stringChar
  split
  · next h =>
      rcases (by simpa using h : c = '"' ∨ c = '\\') with rfl | rfl
      · exact .short _ rfl
      · exact .short _ rfl
  next hsign =>
  split
  · next h =>
      obtain rfl : c = '\n' := beq_iff_eq.mp h
      exact .short 'n' rfl
  split
  · next h =>
      obtain rfl : c = '\r' := beq_iff_eq.mp h
      exact .short 'r' rfl
  split
  · next h =>
      obtain rfl : c = '\t' := beq_iff_eq.mp h
      exact .short 't' rfl
  split
  · next h =>
      obtain rfl := heq '\x08' h
      exact .short 'b' rfl
  split
  · next h =>
      obtain rfl := heq '\x0c' h
      exact .short 'f' rfl
  split
  · next h =>
      obtain ⟨hdigits, hread⟩ := hex4?_paddedDigits c.toNat h
      rw [hdigits]
      exact .code _ _ h hread
  · next h =>
      obtain ⟨hmark, hescape⟩ : c ≠ '"' ∧ c ≠ '\\' := by simpa using hsign
      exact .itself hmark hescape (by omega)

theorem readString_short {c d : Char} (h : shortEscape? d = some c)
    (cs : List Char) :
    readString ('\\' :: d :: cs) =
      (readString cs).map fun (s, r) => (c :: s, r) := by
  have hd : d ≠ 'u' := by
    rintro rfl
    cases h
  rw [readString.eq_4 d cs (fun _ _ _ _ _ _ _ _ _ e => absurd e hd)
    (fun _ _ _ _ _ e => absurd e hd), h]

theorem readString_itself {c : Char} (hmark : c ≠ '"') (hescape : c ≠ '\\')
    (hc : 0x20 ≤ c.toNat) (cs : List Char) :
    readString (c :: cs) = (readString cs).map fun (s, r) => (c :: s, r) := by
  rw [readString.eq_5 c cs hmark (fun _ _ _ _ _ _ _ _ _ e => absurd e hescape)
    (fun _ _ _ _ _ e => absurd e hescape) (fun _ _ e => absurd e hescape),
    if_neg (by omega)]

/-- If the text begins with an escape by code point, it is one that can be
read. -/
def Continues (cs : List Char) : Prop :=
  ∀ e f g k r, cs = '\\' :: 'u' :: e :: f :: g :: k :: r →
    ∃ n, hex4? e f g k = some n

/-- The escape of a control is read on its own, also in front of another
one. -/
theorem readString_code {c x y : Char} (hc : c.toNat < 0x20)
    (h : hex4? '0' '0' x y = some c.toNat) {cs : List Char}
    (hcs : Continues cs) :
    readString ('\\' :: 'u' :: '0' :: '0' :: x :: y :: cs) =
      (readString cs).map fun (s, r) => (c :: s, r) := by
  have hvalid : c.toNat.isValidChar := c.valid
  have hhigh : ¬ 0xD800 ≤ c.toNat := by omega
  by_cases hnext : ∃ e f g k r, cs = '\\' :: 'u' :: e :: f :: g :: k :: r
  · obtain ⟨e, f, g, k, r, rfl⟩ := hnext
    obtain ⟨n, hn⟩ := hcs e f g k r rfl
    rw [readString.eq_2, h, hn]
    simp [hvalid, hhigh]
  · have hno : ∀ e f g k r, cs = '\\' :: 'u' :: e :: f :: g :: k :: r →
        False :=
      fun e f g k r hcs => hnext ⟨e, f, g, k, r, hcs⟩
    rw [readString.eq_3 _ _ _ _ cs hno, h]
    simp [hvalid]

/-- The first character of a string. -/
theorem readString_stringChar (c : Char) {cs : List Char}
    (hcs : Continues cs) :
    readString (stringChar c ++ cs) =
      (readString cs).map fun (s, r) => (c :: s, r) := by
  have hform := isForm_stringChar c
  generalize stringChar c = form at hform
  cases hform with
  | short d h => exact readString_short h cs
  | code x y hc h => exact readString_code hc h hcs
  | itself hmark hescape hc => exact readString_itself hmark hescape hc cs

theorem continues_written (s rest : List Char) :
    Continues (s.flatMap stringChar ++ '"' :: rest) := by
  intro e f g k r h
  cases s with
  | nil => simp at h
  | cons c s =>
      have hform := isForm_stringChar c
      rw [List.flatMap_cons, List.append_assoc] at h
      generalize stringChar c = form at h hform
      cases hform with
      | short d hd =>
          obtain rfl : d = 'u' := (List.cons.inj (List.cons.inj h).2).1
          cases hd
      | code x y hc hread =>
          obtain ⟨rfl, rfl, rfl, rfl, -⟩ :
              '0' = e ∧ '0' = f ∧ x = g ∧ y = k ∧ _ := by
            simpa using h
          exact ⟨_, hread⟩
      | itself _ hescape _ => exact absurd (List.cons.inj h).1 hescape

/-- **A string is read back** up to its closing mark. -/
theorem readString_written (s rest : List Char) :
    readString (s.flatMap stringChar ++ '"' :: rest) = some (s, rest) := by
  induction s with
  | nil => exact readString.eq_1 rest
  | cons c s ih =>
      rw [List.flatMap_cons, List.append_assoc,
        readString_stringChar c (continues_written s rest), ih]
      rfl

/-! ## Values -/

theorem readValue_congr {cs cs' : List Char}
    (h : skipBlanks cs = skipBlanks cs') (fuel : Nat) :
    readValue fuel cs = readValue fuel cs' := by
  cases fuel with
  | zero => rfl
  | succ fuel => rw [readValue, readValue, h]

theorem skipBlanks_newLine (level : Nat) (cs : List Char) :
    skipBlanks (newLine level ++ cs) = skipBlanks cs := by
  refine List.dropWhile_append_of_pos ?_
  simp [newLine]

/-- A text that is read as a value, whatever stands behind it. -/
def IsReadAs (cs : List Char) (j : Json) : Prop :=
  ∀ fuel rest, cs.length < fuel → readValue fuel (cs ++ rest) = some (j, rest)

/-- Blanks may stand in front of the text of a value. -/
theorem IsReadAs.blank_append {cs : List Char} {j : Json} (h : IsReadAs cs j)
    {w : List Char} (hw : ∀ cs, skipBlanks (w ++ cs) = skipBlanks cs) :
    IsReadAs (w ++ cs) j := by
  intro fuel rest hfuel
  rw [List.length_append] at hfuel
  rw [List.append_assoc, readValue_congr (hw _)]
  exact h fuel rest (by omega)

theorem isReadAs_stringText (s : String) :
    IsReadAs (stringText s) (.str s) := by
  intro fuel rest hfuel
  obtain ⟨fuel, rfl⟩ := Nat.exists_eq_add_one.mpr (Nat.zero_lt_of_lt hfuel)
  have htext : stringText s ++ rest =
      '"' :: (s.toList.flatMap stringChar ++ '"' :: rest) := by
    simp [stringText]
  have hmark : ∀ cs, skipBlanks ('"' :: cs) = '"' :: cs := fun _ => rfl
  rw [htext, readValue, hmark]
  simp [readString_written]

/-! ## Arrays -/

section Arrays

variable {items : List Json}

/-- **The items of an array are read back**, if each of them is. -/
theorem readItems_written (hne : items ≠ [])
    (h : ∀ j ∈ items, ∀ level, IsReadAs (prettyChars level j) j)
    (level outer fuel : Nat)
    (hfuel : (prettyItems level items).length + 1 < fuel)
    (rest : List Char) :
    readItems fuel
        (prettyItems level items ++ (newLine outer ++ ']' :: rest)) =
      some (items, rest) := by
  induction items generalizing fuel with
  | nil => exact absurd rfl hne
  | cons j js ih =>
      obtain ⟨fuel, rfl⟩ := Nat.exists_eq_add_one.mpr (Nat.zero_lt_of_lt hfuel)
      have hj : IsReadAs (newLine level ++ prettyChars level j) j :=
        (h j (by simp) level).blank_append (skipBlanks_newLine level)
      cases js with
      | nil =>
          have hend : skipBlanks (newLine outer ++ ']' :: rest) =
              ']' :: rest := by
            rw [skipBlanks_newLine]
            rfl
          rw [prettyItems] at hfuel ⊢
          rw [readItems, hj fuel _ (by omega)]
          simp only [hend]
      | cons k ks =>
          rw [prettyItems.eq_3 level j (k :: ks) (by simp)] at hfuel ⊢
          have hlength : (newLine level ++ prettyChars level j).length +
              (prettyItems level (k :: ks)).length < fuel := by
            simp only [List.length_append, List.length_cons] at hfuel ⊢
            omega
          have hnewLine : 0 < (newLine level ++ prettyChars level j).length :=
            Nat.succ_pos _
          have hks := ih (by simp) (fun i hi => h i (by simp [hi])) fuel
            (by omega)
          have hcomma : ∀ cs, skipBlanks (',' :: cs) = ',' :: cs :=
            fun _ => rfl
          rw [readItems, List.append_assoc, hj fuel _ (by omega)]
          simp only [List.cons_append, hcomma, hks]
          rfl

/-- An array is read item by item, unless it ends at once. -/
theorem readValue_arr {fuel : Nat} {cs rest : List Char}
    (h : readItems fuel cs = some (items, rest)) :
    readValue (fuel + 1) ('[' :: cs) = some (.arr items, rest) := by
  have hmark : skipBlanks ('[' :: cs) = '[' :: cs := rfl
  have hend : ∀ r, skipBlanks cs ≠ ']' :: r := by
    intro r hr
    have hnone : readItems fuel cs = none := by
      rcases fuel with _ | _ | fuel
      · rfl
      · rfl
      · rw [readItems, readValue, hr]
        rfl
    rw [hnone] at h
    cases h
  rw [readValue, hmark]
  -- By `hend` the match is not on the closing bracket.
  simp only [h, Option.map_some]

theorem isReadAs_arr
    (h : ∀ j ∈ items, ∀ level, IsReadAs (prettyChars level j) j)
    (level : Nat) : IsReadAs (prettyChars level (.arr items)) (.arr items) := by
  intro fuel rest hfuel
  obtain ⟨fuel, rfl⟩ := Nat.exists_eq_add_one.mpr (Nat.zero_lt_of_lt hfuel)
  by_cases hne : items = []
  · subst hne
    rfl
  · rw [prettyChars.eq_3 level items hne] at hfuel ⊢
    simp only [List.length_append, List.length_cons] at hfuel
    have hitems := readItems_written hne h (level + 1) level fuel
      (by omega) rest
    simpa using readValue_arr hitems

end Arrays

/-! ## Objects -/

section Objects

variable {fields : List (String × Json)}

/-- A field begins with the mark of its name. -/
theorem skipBlanks_field (level : Nat) (name : String) (cs : List Char) :
    skipBlanks (newLine level ++ (stringText name ++ ':' :: cs)) =
      '"' :: (name.toList.flatMap stringChar ++ '"' :: ':' :: cs) := by
  have htext : stringText name ++ ':' :: cs =
      '"' :: (name.toList.flatMap stringChar ++ '"' :: ':' :: cs) := by
    simp [stringText]
  rw [skipBlanks_newLine, htext]
  rfl

section Field

variable {fuel : Nat} {cs rest r : List Char} {j : Json}

/-- The last field of an object. -/
theorem readFields_last (h : readValue fuel cs = some (j, rest))
    (hend : skipBlanks rest = '}' :: r) (level : Nat) (name : String) :
    readFields (fuel + 1) (newLine level ++ (stringText name ++ ':' :: cs)) =
      some ([(name, j)], r) := by
  have hcolon : skipBlanks (':' :: cs) = ':' :: cs := rfl
  rw [readFields, skipBlanks_field]
  simp [readString_written, hcolon, h, hend]

/-- A field in front of others. -/
theorem readFields_cons (h : readValue fuel cs = some (j, rest))
    (hcomma : skipBlanks rest = ',' :: r) (level : Nat) (name : String)
    {r' : List Char} (hfields : readFields fuel r = some (fields, r')) :
    readFields (fuel + 1) (newLine level ++ (stringText name ++ ':' :: cs)) =
      some ((name, j) :: fields, r') := by
  have hcolon : skipBlanks (':' :: cs) = ':' :: cs := rfl
  rw [readFields, skipBlanks_field]
  simp [readString_written, hcolon, h, hcomma, hfields]

end Field

/-- **The fields of an object are read back**, if their values are. -/
theorem readFields_written (hne : fields ≠ [])
    (h : ∀ f ∈ fields, ∀ level, IsReadAs (prettyChars level f.2) f.2)
    (level outer fuel : Nat)
    (hfuel : (prettyFields level fields).length + 1 < fuel)
    (rest : List Char) :
    readFields fuel
        (prettyFields level fields ++ (newLine outer ++ '}' :: rest)) =
      some (fields, rest) := by
  induction fields generalizing fuel with
  | nil => exact absurd rfl hne
  | cons f fs ih =>
      obtain ⟨name, j⟩ := f
      obtain ⟨fuel, rfl⟩ := Nat.exists_eq_add_one.mpr (Nat.zero_lt_of_lt hfuel)
      have hj : IsReadAs (' ' :: prettyChars level j) j :=
        (h (name, j) (by simp) level).blank_append (w := [' ']) fun _ => rfl
      cases fs with
      | nil =>
          have hend : skipBlanks (newLine outer ++ '}' :: rest) =
              '}' :: rest := by
            rw [skipBlanks_newLine]
            rfl
          rw [prettyFields] at hfuel ⊢
          simp only [List.length_append, List.length_cons] at hfuel
          have hfield := readFields_last
            (hj fuel (newLine outer ++ '}' :: rest)
              (by simp only [List.length_cons]; omega)) hend level name
          simpa using hfield
      | cons g gs =>
          rw [prettyFields.eq_3 level name j (g :: gs) (by simp)] at hfuel ⊢
          simp only [List.length_append, List.length_cons] at hfuel
          have hgs := ih (by simp) (fun i hi => h i (by simp [hi])) fuel
            (by omega)
          have hfield := readFields_cons
            (hj fuel (',' :: (prettyFields level (g :: gs) ++
              (newLine outer ++ '}' :: rest)))
              (by simp only [List.length_cons]; omega)) rfl level name hgs
          simpa using hfield

/-- An object is read field by field, unless it ends at once. -/
theorem readValue_obj {fuel : Nat} {cs rest : List Char}
    (h : readFields fuel cs = some (fields, rest)) :
    readValue (fuel + 1) ('{' :: cs) = some (.obj fields, rest) := by
  have hmark : skipBlanks ('{' :: cs) = '{' :: cs := rfl
  have hend : ∀ r, skipBlanks cs ≠ '}' :: r := by
    intro r hr
    have hnone : readFields fuel cs = none := by
      rcases fuel with _ | fuel
      · rfl
      · rw [readFields, hr]
        rfl
    rw [hnone] at h
    cases h
  rw [readValue, hmark]
  -- By `hend` the match is not on the closing brace.
  simp only [h, Option.map_some]

theorem isReadAs_obj
    (h : ∀ f ∈ fields, ∀ level, IsReadAs (prettyChars level f.2) f.2)
    (level : Nat) :
    IsReadAs (prettyChars level (.obj fields)) (.obj fields) := by
  intro fuel rest hfuel
  obtain ⟨fuel, rfl⟩ := Nat.exists_eq_add_one.mpr (Nat.zero_lt_of_lt hfuel)
  by_cases hne : fields = []
  · subst hne
    rfl
  · rw [prettyChars.eq_4 level fields hne] at hfuel ⊢
    simp only [List.length_append, List.length_cons] at hfuel
    have hfields := readFields_written hne h (level + 1) level fuel
      (by omega) rest
    simpa using readValue_obj hfields

end Objects

/-! ## Values without numbers -/

/-- There is no number in the value. -/
inductive IsNumberless : Json → Prop where
  | null : IsNumberless .null
  | bool (b : Bool) : IsNumberless (.bool b)
  | str (s : String) : IsNumberless (.str s)
  | arr {items : List Json} (h : ∀ j ∈ items, IsNumberless j) :
      IsNumberless (.arr items)
  | obj {fields : List (String × Json)} (h : ∀ f ∈ fields, IsNumberless f.2) :
      IsNumberless (.obj fields)

/-- The text of a value at any level of a document is read as the value. -/
theorem isReadAs_prettyChars {j : Json} (h : j.IsNumberless) (level : Nat) :
    IsReadAs (prettyChars level j) j := by
  induction h generalizing level with
  | null =>
      intro fuel rest hfuel
      obtain ⟨fuel, rfl⟩ := Nat.exists_eq_add_one.mpr (Nat.zero_lt_of_lt hfuel)
      rfl
  | bool b =>
      intro fuel rest hfuel
      obtain ⟨fuel, rfl⟩ := Nat.exists_eq_add_one.mpr (Nat.zero_lt_of_lt hfuel)
      cases b with
      | true => rfl
      | false => rfl
  | str s => exact isReadAs_stringText s
  | arr h ih => exact isReadAs_arr ih level
  | obj h ih => exact isReadAs_obj ih level

/-- **A written value is read back.** -/
theorem read?_pretty {j : Json} (h : j.IsNumberless) :
    read? j.pretty = some j := by
  have hread := isReadAs_prettyChars h 0 ((prettyChars 0 j).length + 1) []
    (Nat.lt_succ_self _)
  rw [List.append_nil] at hread
  unfold read? pretty
  rw [String.toList_ofList, hread]
  rfl

end TableSketch.Json
