import TableSketch.Proofs.Text.Margins
import TableSketch.Sketch.Entry

/-!
# Entries, line by line

An entry depends on the trimmed pieces of its line only (`ofLine?_congr`), so
the blanks around the line make no difference (`ofLine?_trim`).  Cut at its
first colon, the line gives the trimmed key and the tidied value
(`ofLine?_colon`); without a colon it gives nothing.

The entries of a body are those of its lines (`entries_eq_filterMap`).  A
stretch of text within one line may therefore be replaced by another one that
makes no difference to any line (`entries_replace`), and blanks may be put at
the end of the body and beside the characters that cut it up
(`entries_append_spacing`, `entries_spacing`).

## Main results

* `Entry.ofLine?_eq_some_iff` — what an entry is, in terms of its line.
* `Entry.isTidy_of_ofLine?`, `Entry.IsTidy.ofLine?_eq` — an entry that was
  read is tidy, and a tidy one is read back as it is.
* `entries_lineEnd` — the entries of a body, line by line.
* `entries_spacing` — blanks around a line end or a colon.
-/

namespace TableSketch

open Text

/-! ## One line -/

theorem isBlank_colon : isBlank ':' = false := by decide

theorem colon_beq_of_isBlank {c : Char} (h : isBlank c = true) :
    (c == ':') = false := by
  refine beq_eq_false_iff_ne.mpr ?_
  rintro rfl
  rw [isBlank_colon] at h
  cases h

namespace Entry

/-- A line counts by its trimmed pieces. -/
theorem ofLine?_congr {line line' : List Char}
    (h : (pieces (· == ':') line).map trim =
      (pieces (· == ':') line').map trim) :
    ofLine? line = ofLine? line' := by
  unfold ofLine?
  rw [h]

theorem ofLine?_trim (line : List Char) : ofLine? (trim line) = ofLine? line :=
  ofLine?_congr (map_trim_pieces_trim (fun _ => colon_beq_of_isBlank) line)

theorem ofLine?_eq_none {line : List Char} (h : ':' ∉ line) :
    ofLine? line = none := by
  have hpieces : pieces (· == ':') line = [line] :=
    pieces_eq_singleton fun c hc => by
      simpa using fun e : c = ':' => h (e ▸ hc)
  unfold ofLine?
  rw [hpieces]
  rfl

/-- A line with a colon is an entry. -/
theorem ofLine?_colon {key : List Char} (hkey : ':' ∉ key)
    (value : List Char) :
    ofLine? (key ++ ':' :: value) = some ⟨trim key, tidy ':' value⟩ := by
  have hpieces : pieces (· == ':') (key ++ ':' :: value) =
      key :: pieces (· == ':') value := by
    rw [pieces_append_cons (by rfl), pieces_eq_singleton fun c hc => by
      simpa using fun e : c = ':' => hkey (e ▸ hc)]
    rfl
  obtain ⟨q, qs, hq⟩ :=
    List.exists_cons_of_ne_nil (pieces_ne_nil (· == ':') value)
  have htidy : trim (rejoin ':' ((q :: qs).map trim)) = tidy ':' value := by
    rw [← hq]
    exact trim_tidy isBlank_colon value
  unfold ofLine?
  rw [hpieces, hq, ← htidy]
  rfl

/-- What an entry is: the trimmed key in front of the first colon of its line,
and the tidied value behind it. -/
theorem ofLine?_eq_some_iff {line : List Char} {e : Entry} :
    ofLine? line = some e ↔ ∃ key value,
      line = key ++ ':' :: value ∧ ':' ∉ key ∧
        e = ⟨trim key, tidy ':' value⟩ := by
  constructor
  · intro h
    by_cases hcolon : ':' ∈ line
    · obtain ⟨key, value, rfl, hkey⟩ := List.eq_append_cons_of_mem hcolon
      rw [ofLine?_colon hkey] at h
      exact ⟨key, value, rfl, hkey, (Option.some.inj h).symm⟩
    · rw [ofLine?_eq_none hcolon] at h
      cases h
  · rintro ⟨key, value, rfl, hkey, rfl⟩
    exact ofLine?_colon hkey value

/-- What reading a line leaves nothing to trim of. -/
structure IsTidy (e : Entry) : Prop where
  key_trimmed : trim e.key = e.key
  key_colon : ':' ∉ e.key
  /-- The pieces between the colons of the value. -/
  value_trimmed : ∀ p ∈ pieces (· == ':') e.value, trim p = p

/-- Entries that are read are tidy. -/
theorem isTidy_of_ofLine? {line : List Char} {e : Entry}
    (h : ofLine? line = some e) : e.IsTidy := by
  obtain ⟨key, value, rfl, hkey, rfl⟩ := ofLine?_eq_some_iff.mp h
  refine ⟨trim_trim key, fun hmem => hkey (mem_of_mem_trim hmem), ?_⟩
  intro p hp
  rw [pieces_tidy] at hp
  obtain ⟨q, -, rfl⟩ := List.mem_map.mp hp
  exact trim_trim q

/-- A tidy entry is read back from its key and its value, with a colon and any
blanks between them, and with any blanks in front. -/
theorem IsTidy.ofLine?_eq {e : Entry} (he : e.IsTidy) {w w' : List Char}
    (hw : AllBlank w) (hw' : AllBlank w') :
    ofLine? (w ++ (e.key ++ ':' :: (w' ++ e.value))) = some e := by
  have hkey : ':' ∉ w ++ e.key := by
    intro hmem
    rcases List.mem_append.mp hmem with hmem | hmem
    · exact absurd (hw _ hmem) (by decide)
    · exact he.key_colon hmem
  rw [← List.append_assoc, ofLine?_colon hkey, trim_blank_append hw,
    he.key_trimmed, tidy_blank_append hw' isBlank_colon,
    tidy_eq_self he.value_trimmed]

/-- The characters of an entry are those of its line. -/
theorem mem_of_ofLine? {line : List Char} {e : Entry} {x : Char}
    (h : ofLine? line = some e) (hx : x ∈ e.key ++ e.value) : x ∈ line := by
  obtain ⟨key, value, rfl, -, rfl⟩ := ofLine?_eq_some_iff.mp h
  rcases List.mem_append.mp hx with hx | hx
  · exact List.mem_append_left _ (mem_of_mem_trim hx)
  · rcases mem_of_mem_tidy hx with rfl | hx <;> simp_all

end Entry

/-! ## All lines -/

theorem entries_eq_filterMap (body : List Char) :
    entries body = (pieces isLineEnd body).filterMap Entry.ofLine? := by
  rw [entries]
  exact congrArg (List.filterMap · _) (funext Entry.ofLine?_trim)

/-- A body counts by its trimmed lines. -/
theorem entries_congr {body body' : List Char}
    (h : (pieces isLineEnd body).map trim =
      (pieces isLineEnd body').map trim) :
    entries body = entries body' := by
  have hmap : ∀ b : List Char, entries b =
      ((pieces isLineEnd b).map trim).filterMap Entry.ofLine? := fun b => by
    rw [List.filterMap_map]
    rfl
  rw [hmap, hmap, h]

/-- The entries on both sides of a line end. -/
theorem entries_append_cons {c : Char} (hc : isLineEnd c = true)
    (a b : List Char) : entries (a ++ c :: b) = entries a ++ entries b := by
  rw [entries_eq_filterMap, pieces_append_cons hc, List.filterMap_append,
    ← entries_eq_filterMap, ← entries_eq_filterMap]

/-- The first line of a body, and the others. -/
theorem entries_lineEnd {line : List Char} {c : Char}
    (hline : ∀ d ∈ line, isLineEnd d = false) (hc : isLineEnd c = true)
    (rest : List Char) :
    entries (line ++ c :: rest) =
      (Entry.ofLine? line).toList ++ entries rest := by
  rw [entries_append_cons hc, entries_eq_filterMap line,
    pieces_eq_singleton hline]
  cases h : Entry.ofLine? line <;> simp [h]

/-- Entries hold no line end, and no character that the body does not hold. -/
theorem mem_of_mem_entries {body : List Char} {e : Entry} {x : Char}
    (he : e ∈ entries body) (hx : x ∈ e.key ++ e.value) :
    x ∈ body ∧ isLineEnd x = false := by
  rw [entries_eq_filterMap] at he
  obtain ⟨line, hline, hread⟩ := List.mem_filterMap.mp he
  have hmem := Entry.mem_of_ofLine? hread hx
  exact ⟨mem_of_mem_pieces hline hmem, not_sep_of_mem_pieces hline x hmem⟩

theorem isTidy_of_mem_entries {body : List Char} {e : Entry}
    (he : e ∈ entries body) : e.IsTidy := by
  rw [entries_eq_filterMap] at he
  obtain ⟨line, -, hread⟩ := List.mem_filterMap.mp he
  exact Entry.isTidy_of_ofLine? hread

/-- Within a line, a stretch of text may be replaced by one that makes no
difference to any line. -/
theorem entries_replace {m m' : List Char}
    (hm : ∀ c ∈ m, isLineEnd c = false) (hm' : ∀ c ∈ m', isLineEnd c = false)
    (h : ∀ x y, Entry.ofLine? (x ++ (m ++ y)) = Entry.ofLine? (x ++ (m' ++ y)))
    (a b : List Char) : entries (a ++ (m ++ b)) = entries (a ++ (m' ++ b)) := by
  obtain ⟨front, last, -, happend⟩ := pieces_append isLineEnd a
  obtain ⟨q, qs, hq⟩ := List.exists_cons_of_ne_nil (pieces_ne_nil isLineEnd b)
  rw [entries_eq_filterMap, entries_eq_filterMap, happend, happend,
    pieces_append_of_not_sep hm, pieces_append_of_not_sep hm', hq]
  simp only [List.modifyHead_cons, List.filterMap_append,
    List.filterMap_cons, h]

/-! ## Blanks within a line -/

/-- A run of blanks that ends no line. -/
def IsSpacing (w : List Char) : Prop :=
  ∀ c ∈ w, isBlank c = true ∧ c ≠ '\n'

namespace IsSpacing

variable {w w' : List Char}

theorem nil : IsSpacing [] := fun _ hc => absurd hc List.not_mem_nil

theorem head {x : Char} (h : IsSpacing (x :: w)) : IsSpacing [x] := by
  intro c hc
  rw [List.mem_singleton.mp hc]
  exact h x List.mem_cons_self

theorem tail {x : Char} (h : IsSpacing (x :: w)) : IsSpacing w :=
  fun c hc => h c (List.mem_cons_of_mem x hc)

theorem allBlank (hw : IsSpacing w) : AllBlank w := fun c hc => (hw c hc).1

theorem not_isLineEnd (hw : IsSpacing w) : ∀ c ∈ w, isLineEnd c = false := by
  intro c hc
  have hsemicolon : c ≠ ';' := by
    rintro rfl
    exact absurd (hw _ hc).1 (by decide)
  simp [isLineEnd, (hw c hc).2, hsemicolon]

theorem colon_beq (hw : IsSpacing w) : ∀ c ∈ w, (c == ':') = false :=
  fun c hc => colon_beq_of_isBlank (hw c hc).1

end IsSpacing

section Spacing

variable {w w' : List Char}

/-- Blanks at the end of a body. -/
theorem entries_append_spacing (hw : IsSpacing w) (a : List Char) :
    entries (a ++ w) = entries a :=
  entries_congr (map_trim_pieces_append hw.allBlank hw.not_isLineEnd a)

/-- Blanks in front of a body. -/
theorem entries_spacing_append (hw : IsSpacing w) (b : List Char) :
    entries (w ++ b) = entries b :=
  entries_congr (map_trim_pieces_blank_append hw.allBlank hw.not_isLineEnd b)

/-- Blanks around a colon. -/
theorem Entry.ofLine?_spacing (hw : IsSpacing w) (hw' : IsSpacing w')
    (x y : List Char) :
    Entry.ofLine? (x ++ (w ++ ':' :: (w' ++ y))) =
      Entry.ofLine? (x ++ ':' :: y) := by
  refine Entry.ofLine?_congr ?_
  rw [← List.append_assoc, pieces_append_cons (by rfl),
    pieces_append_cons (by rfl), List.map_append, List.map_append,
    map_trim_pieces_append hw.allBlank hw.colon_beq,
    map_trim_pieces_blank_append hw'.allBlank hw'.colon_beq]

/-- **Blanks beside what cuts a body up.**  Around a line end or a colon they
make no difference to the entries. -/
theorem entries_spacing (hw : IsSpacing w) (hw' : IsSpacing w') {c : Char}
    (hc : isLineEnd c = true ∨ c = ':') (a b : List Char) :
    entries (a ++ (w ++ c :: (w' ++ b))) = entries (a ++ c :: b) := by
  rcases hc with hc | rfl
  · rw [← List.append_assoc, entries_append_cons hc, entries_append_cons hc,
      entries_append_spacing hw, entries_spacing_append hw']
  · have hcolon : ∀ d ∈ w ++ ':' :: w', isLineEnd d = false := by
      intro d hd
      rcases List.mem_append.mp hd with hd | hd
      · exact hw.not_isLineEnd d hd
      · rcases List.mem_cons.mp hd with rfl | hd
        · rfl
        · exact hw'.not_isLineEnd d hd
    have hreplace : entries (a ++ ((w ++ ':' :: w') ++ b)) =
        entries (a ++ ([':'] ++ b)) :=
      entries_replace hcolon (by simp [isLineEnd])
        (fun x y => by simpa using Entry.ofLine?_spacing hw hw' x y) a b
    simpa using hreplace

end Spacing

end TableSketch
