import TableSketch.Proofs.Sketch.Entries

/-!
# The canonical form of a line

A line with a colon is an entry, and an entry has a text of its own: the key, a
colon and the value (`Entry.text`).  That is the canonical form of all lines
that are read as the entry.  It falls into the trimmed pieces of any of
them (`pieces_text`), so no piece is lost or merged with another one, not even
an empty one, and it has as many colons.  Reading it gives the entry again, so a
line that is canonical already is left as it is.

"Trimmed" is said here without trimming: neither the first nor the last
character is a blank (`Text.IsTrimmed`).

## Main results

* `Entry.pieces_text` — the pieces of the canonical form.
* `Entry.ofLine?_eq_none_iff` — the lines that are no entries.
* `Entry.ofLine?_canonical` — everything about reading a line once and again.
-/

namespace TableSketch

open Text

/-! ## Texts without blanks at their ends -/

/-- No blank stands at either end of a text. -/
structure Text.IsTrimmed (cs : List Char) : Prop where
  first : ∀ c, cs.head? = some c → isBlank c = false
  last : ∀ c, cs.getLast? = some c → isBlank c = false

theorem Text.isTrimmed_trim (cs : List Char) : IsTrimmed (trim cs) :=
  ⟨fun _ => not_isBlank_of_head?_trim, fun _ => not_isBlank_of_getLast?_trim⟩

namespace Entry

variable {line : List Char} {e : Entry}

/-! ## The text of an entry -/

/-- The key and the value around a colon. -/
def text (e : Entry) : List Char := e.key ++ ':' :: e.value

/-- **No piece is lost or merged.**  The pieces of the canonical form are those
of the line that was read, trimmed one by one. -/
theorem pieces_text (h : ofLine? line = some e) :
    pieces (· == ':') e.text = (pieces (· == ':') line).map trim := by
  obtain ⟨key, value, rfl, hkey, rfl⟩ := ofLine?_eq_some_iff.mp h
  have hpieces : ∀ {p : List Char}, ':' ∉ p → pieces (· == ':') p = [p] := by
    intro p hp
    refine pieces_eq_singleton fun c hc => ?_
    simpa using fun e : c = ':' => hp (e ▸ hc)
  have hkey' : ':' ∉ trim key := fun hmem => hkey (mem_of_mem_trim hmem)
  rw [text, pieces_append_cons (by rfl), pieces_append_cons (by rfl),
    hpieces hkey, hpieces hkey', pieces_tidy, List.map_append]
  rfl

/-- Reading the canonical form gives the entry that it is the form of. -/
theorem ofLine?_text (h : ofLine? line = some e) :
    ofLine? e.text = some e := by
  have hnil : AllBlank [] := fun _ hc => absurd hc List.not_mem_nil
  exact (isTidy_of_ofLine? h).ofLine?_eq hnil hnil

/-! ## Reading a line -/

/-- **What is no entry**: a line without a colon. -/
theorem ofLine?_eq_none_iff : ofLine? line = none ↔ ':' ∉ line := by
  refine ⟨fun h hcolon => ?_, ofLine?_eq_none⟩
  obtain ⟨key, value, rfl, hkey⟩ := List.eq_append_cons_of_mem hcolon
  rw [ofLine?_colon hkey] at h
  cases h

theorem isTrimmed_of_ofLine? (h : ofLine? line = some e) :
    IsTrimmed e.key ∧ ∀ p ∈ pieces (· == ':') e.value, IsTrimmed p := by
  obtain ⟨hkey, -, hvalue⟩ := isTidy_of_ofLine? h
  refine ⟨hkey ▸ isTrimmed_trim e.key, fun p hp => ?_⟩
  rw [← hvalue p hp]
  exact isTrimmed_trim p

/-- **Reading a line makes it canonical.**  A line with a colon is an entry.  No
blank stands at the ends of its key or of any piece of its value, and no colon
in its key.  The key and the value around a colon are the trimmed pieces of the
line, with as many colons as there, and they are read as the same entry.  Every
other line is no entry. -/
theorem ofLine?_canonical (line : List Char) :
    (':' ∈ line → ∃ e, ofLine? line = some e ∧
      (IsTrimmed e.key ∧ ∀ p ∈ pieces (· == ':') e.value, IsTrimmed p) ∧
      ':' ∉ e.key ∧
      pieces (· == ':') e.text = (pieces (· == ':') line).map trim ∧
      e.text.count ':' = line.count ':' ∧
      ofLine? e.text = some e) ∧
    (ofLine? line = none ↔ ':' ∉ line) := by
  refine ⟨fun hcolon => ?_, ofLine?_eq_none_iff⟩
  cases h : ofLine? line with
  | none => exact absurd hcolon (ofLine?_eq_none_iff.mp h)
  | some e =>
      have hpieces := pieces_text h
      exact ⟨e, rfl, isTrimmed_of_ofLine? h, (isTidy_of_ofLine? h).key_colon,
        hpieces, count_eq_of_pieces_eq_map hpieces, ofLine?_text h⟩

/-- A line with an empty piece, a blank one and a colon at its end. -/
def spreadLine : List Char :=
  "\ta\u00a0: b c :: \u2003:".toList

/-- Its canonical form has all four colons. -/
theorem ofLine?_canonical_of_spread :
    ':' ∈ spreadLine ∧ ∃ e, ofLine? spreadLine = some e ∧
      e.text = "a:b c:::".toList ∧ e.text.count ':' = 4 ∧
      ofLine? e.text = some e := by
  have hcolon : ':' ∈ spreadLine := by decide
  have hread : ofLine? spreadLine =
      some ⟨"a".toList, "b c:::".toList⟩ := by decide
  obtain ⟨e, he, -, -, -, hcount, hagain⟩ :=
    (ofLine?_canonical spreadLine).1 hcolon
  obtain rfl := Option.some.inj (hread.symm.trans he)
  exact ⟨hcolon, _, hread, rfl, hcount, hagain⟩

end Entry

end TableSketch
