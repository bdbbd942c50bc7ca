/-!
# Blank characters

The blanks of the sketch notation are the characters that separate words in
running text: the ASCII ones, the four information separators `U+001C`–`U+001F`,
the next-line control and every space and separator of the Unicode space classes.
Headings may be spread over any number of them, and keys and values are trimmed
by them at both ends.

What is left after trimming neither begins nor ends with a blank
(`not_isBlank_of_head?_trim`, `not_isBlank_of_getLast?_trim`), and a text that already
is so stays as it is (`trim_eq_self`). So trimming a second time changes nothing.
-/

namespace TableSketch.Text

/-- The blanks, by code point. -/
def isBlank (c : Char) : Bool :=
  let n := c.toNat
  (0x09 ≤ n && n ≤ 0x0D) || (0x1C ≤ n && n ≤ 0x20) || n == 0x85 || n == 0xA0 ||
    n == 0x1680 || (0x2000 ≤ n && n ≤ 0x200A) || n == 0x2028 || n == 0x2029 ||
    n == 0x202F || n == 0x205F || n == 0x3000

/-- Drops the blanks in front. -/
def trimLeft (cs : List Char) : List Char :=
  cs.dropWhile isBlank

/-- Drops the blanks at the end. -/
def trimRight (cs : List Char) : List Char :=
  (cs.reverse.dropWhile isBlank).reverse

/-- Drops the blanks at both ends. -/
def trim (cs : List Char) : List Char :=
  trimRight (trimLeft cs)

/-- What is left after trimming in front does not start with a blank. -/
theorem not_isBlank_of_head?_trimLeft {cs : List Char} {c : Char}
    (h : (trimLeft cs).head? = some c) : isBlank c = false := by
  induction cs with
  | nil => simp [trimLeft] at h
  | cons d ds ih =>
    by_cases hd : isBlank d = true
    · exact ih (by simpa [trimLeft, hd] using h)
    · have hd' : isBlank d = false := by simpa using hd
      have : d = c := by simpa [trimLeft, hd'] using h
      exact this ▸ hd'

theorem trimLeft_eq_self {cs : List Char} (h : ∀ c, cs.head? = some c → isBlank c = false) :
    trimLeft cs = cs := by
  cases cs with
  | nil => rfl
  | cons c cs => simp [trimLeft, h c rfl]

theorem trimRight_eq_reverse (cs : List Char) : trimRight cs = (trimLeft cs.reverse).reverse := rfl

/-- What is left after trimming at the end does not end with a blank. -/
theorem not_isBlank_of_getLast?_trimRight {cs : List Char} {c : Char}
    (h : (trimRight cs).getLast? = some c) : isBlank c = false := by
  have h' : (trimLeft cs.reverse).head? = some c := by simpa [trimRight_eq_reverse] using h
  exact not_isBlank_of_head?_trimLeft h'

/-- Trimming at the end leaves a beginning of the text. -/
theorem isPrefix_trimRight (cs : List Char) : trimRight cs <+: cs := by
  have h := List.reverse_prefix.2 (List.dropWhile_suffix (l := cs.reverse) isBlank)
  simpa [trimRight] using h

theorem trimRight_eq_self {cs : List Char} (h : ∀ c, cs.getLast? = some c → isBlank c = false) :
    trimRight cs = cs := by
  rw [trimRight_eq_reverse, trimLeft_eq_self (by simpa using h), List.reverse_reverse]

/-- What is left after trimming does not begin with a blank. -/
theorem not_isBlank_of_head?_trim {cs : List Char} {c : Char}
    (h : (trim cs).head? = some c) : isBlank c = false := by
  suffices h' : (trimLeft cs).head? = some c from not_isBlank_of_head?_trimLeft h'
  obtain ⟨rest, hrest⟩ := isPrefix_trimRight (trimLeft cs)
  obtain ⟨ds, hds⟩ : ∃ ds, trim cs = c :: ds := by
    cases ht : trim cs with
    | nil => simp [ht] at h
    | cons d ds => exact ⟨ds, by simpa [ht] using h⟩
  rw [← hrest, show trimRight (trimLeft cs) = c :: ds from hds]
  rfl

/-- What is left after trimming does not end with a blank. -/
theorem not_isBlank_of_getLast?_trim {cs : List Char} {c : Char}
    (h : (trim cs).getLast? = some c) : isBlank c = false :=
  not_isBlank_of_getLast?_trimRight h

/-- Trimming leaves a text alone that has no blank at either end. -/
theorem trim_eq_self {cs : List Char} (hfirst : ∀ c, cs.head? = some c → isBlank c = false)
    (hlast : ∀ c, cs.getLast? = some c → isBlank c = false) : trim cs = cs := by
  rw [trim, trimLeft_eq_self hfirst, trimRight_eq_self hlast]

@[simp]
theorem trim_trim (cs : List Char) : trim (trim cs) = trim cs :=
  trim_eq_self (fun _ => not_isBlank_of_head?_trim) (fun _ => not_isBlank_of_getLast?_trim)

/-- Trimming only takes away. -/
theorem mem_of_mem_trim {cs : List Char} {c : Char} (h : c ∈ trim cs) : c ∈ cs :=
  (List.dropWhile_suffix isBlank).subset ((isPrefix_trimRight _).subset h)

end TableSketch.Text
