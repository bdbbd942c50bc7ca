import TableSketch.Proofs.Sketch.Growth

/-!
# Sketches behind one another

Blocks know nothing of their neighbours.  Where a text ends with a closing
brace, the scan is done with it: no heading is half read and, unless the brace
belongs to a body that goes on, no body is open.  What stands behind it is
therefore read as a sketch of its own.

The first-close reading never counts braces, so a closing brace always leads
it out of what it is in the middle of (`after_close_firstClose`).  The
balanced reading may be left inside a body, and then it says so at the end of
the text; if it does not, it is done with the text as well
(`after_close_balanced`).

## Main results

* `after_close` — the state behind a text that ends with a closing brace.
* `findings_append_close` — what is found in such a text and in another one
  behind it, hence the blocks and the tables of both.
-/

namespace TableSketch

/-! ## Behind a closing brace -/

namespace ScanState

/-- A closing brace leads outside, unless it leaves a body open. -/
theorem step_close_of_not_inBody {s : ScanState} {mode : ScanMode}
    (h : ¬ (s.step mode '}').1.InBody) : (s.step mode '}').1 = .outside := by
  cases s with
  | body name content depth nested =>
      cases depth with
      | zero => rfl
      | succ d => exact absurd trivial h
  | _ => rfl

/-- The first-close reading stays shallow along a text. -/
theorem Shallow.after {s : ScanState} (h : s.Shallow) (text : List Char) :
    (s.after .firstClose text).Shallow := by
  induction text generalizing s with
  | nil => exact h
  | cons c cs ih => exact ih (h.step c)

theorem after_close_firstClose (text : List Char) :
    ScanState.after .firstClose .outside (text ++ ['}']) = .outside := by
  have hshallow : (ScanState.after .firstClose .outside text).Shallow :=
    Shallow.after (s := .outside) trivial text
  rw [after_append]
  exact hshallow.step_close .firstClose

end ScanState

/-- A balanced reading that ends inside a body says so. -/
theorem not_inBody_of_not_unterminated {text : List Char}
    (h : ∀ name, .unterminated name ∉ findings .balanced text) :
    ¬ (ScanState.after .balanced .outside text).InBody := by
  intro hbody
  rcases (ScanState.after .balanced .outside text).inBody_cases with
    hnot | ⟨name, content, depth, nested, hstate⟩
  · exact hnot hbody
  · refine h name.reverse (List.mem_append_right _ ?_)
    rw [hstate]
    exact List.mem_singleton_self _

theorem ScanState.after_close_balanced {text : List Char}
    (h : ∀ name, .unterminated name ∉ findings .balanced (text ++ ['}'])) :
    ScanState.after .balanced .outside (text ++ ['}']) = .outside := by
  have hbody := not_inBody_of_not_unterminated h
  rw [after_append] at hbody ⊢
  exact step_close_of_not_inBody hbody

/-- **Behind a closing brace** the scan is between headings, provided that a
balanced reading has no body left open. -/
theorem ScanState.after_close {mode : ScanMode} {text : List Char}
    (hclose : text.getLast? = some '}')
    (hended : mode = .balanced →
      ∀ name, .unterminated name ∉ findings .balanced text) :
    ScanState.after mode .outside text = .outside := by
  obtain ⟨front, rfl⟩ := List.getLast?_eq_some_iff.mp hclose
  cases mode with
  | firstClose => exact after_close_firstClose front
  | balanced => exact after_close_balanced (hended rfl)

/-! ## Two texts -/

/-- Where reading a text leads back to where it began, another text behind it
is read as if it stood alone. -/
theorem findings_append_of_after_eq {mode : ScanMode} {a : List Char}
    (h : ScanState.after mode .outside a = .outside) (b : List Char) :
    findings mode (a ++ b) = findings mode a ++ findings mode b := by
  have hfront : findings mode a = findingsFrom mode .outside a := by
    rw [findings, h]
    exact List.append_nil _
  rw [hfront, findings, findingsFrom_append, ScanState.after_append, h,
    List.append_assoc]
  rfl

/-- **Neighbours are independent.**  Behind a text that ends with a closing
brace another text is read as if it stood alone, by the first-close reading
always, and by the balanced reading if it reports no unterminated block at
the end of the first text.  So the findings, the blocks and the tables of the
two are those of the one and then those of the other. -/
theorem findings_append_close (mode : ScanMode) (a b : String)
    (hclose : a.toList.getLast? = some '}')
    (hended : mode = .balanced →
      ∀ name, .unterminated name ∉ findings .balanced a.toList) :
    findings mode (a ++ b).toList =
        findings mode a.toList ++ findings mode b.toList ∧
      blocks mode (a ++ b).toList =
        blocks mode a.toList ++ blocks mode b.toList ∧
      tables mode (a ++ b) = tables mode a ++ tables mode b := by
  have hfindings : findings mode (a ++ b).toList =
      findings mode a.toList ++ findings mode b.toList := by
    rw [String.toList_append]
    exact findings_append_of_after_eq (ScanState.after_close hclose hended) _
  have hblocks : blocks mode (a ++ b).toList =
      blocks mode a.toList ++ blocks mode b.toList := by
    rw [blocks, hfindings, List.filterMap_append]
    rfl
  refine ⟨hfindings, hblocks, ?_⟩
  rw [tables_eq_filterMap_blocks, hblocks, List.filterMap_append,
    ← tables_eq_filterMap_blocks, ← tables_eq_filterMap_blocks]

/-- A rejected region, an empty body and a stray brace in front leave a table
alone, and so does a block that ends inside another one if braces are not
counted. -/
theorem findings_append_close_of_rejected :
    r"A:{B:{x}} C:{}}".toList.getLast? = some '}' ∧
      (∀ name, .unterminated name ∉
        findings .balanced r"A:{B:{x}} C:{}}".toList) ∧
      tables .balanced (r"A:{B:{x}} C:{}}" ++
          "T:{shape: sql_table; a: b}") = [⟨"T", [⟨"a", "b"⟩]⟩] ∧
      r"A:{B:{x}".toList.getLast? = some '}' ∧
      tables .firstClose (r"A:{B:{x}" ++
          "T:{shape: sql_table; a: b}") = [⟨"T", [⟨"a", "b"⟩]⟩] := by
  have hended : ∀ name, .unterminated name ∉
      findings .balanced r"A:{B:{x}} C:{}}".toList := by
    have hfindings : findings .balanced
        r"A:{B:{x}} C:{}}".toList = [.nested ['A']] := by
      decide
    intro name hmem
    rw [hfindings] at hmem
    simp at hmem
  have hbalanced := findings_append_close .balanced
    r"A:{B:{x}} C:{}}"
    "T:{shape: sql_table; a: b}" (by decide) fun _ => hended
  have hfirst := findings_append_close .firstClose r"A:{B:{x}"
    "T:{shape: sql_table; a: b}" (by decide) (by simp)
  refine ⟨by decide, hended, ?_, by decide, ?_⟩
  · rw [hbalanced.2.2]
    decide
  · rw [hfirst.2.2]
    decide

example : tables .balanced (r"A:{B:{x}" ++
    "T:{shape: sql_table; a: b}") = [] := by
  decide

end TableSketch
