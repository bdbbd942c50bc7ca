/-!
# Line ends

Text that is read has one kind of line end only, the line feed: a carriage return,
alone or together with the line feed behind it, becomes one.
-/

namespace TableSketch.Text

/-- The text with line feeds for all line ends. -/
def unifyNewlines : List Char → List Char
  | [] => []
  | '\r' :: '\n' :: cs => '\n' :: unifyNewlines cs
  | '\r' :: cs => '\n' :: unifyNewlines cs
  | c :: cs => c :: unifyNewlines cs

/-- Nothing changes in a text without carriage returns. -/
theorem unifyNewlines_eq_self {cs : List Char} (h : '\r' ∉ cs) : unifyNewlines cs = cs := by
  induction cs with
  | nil => rfl
  | cons c cs ih =>
    simp only [List.mem_cons, not_or] at h
    rw [unifyNewlines, ih h.2]
    · exact fun _ hc _ => h.1 hc.symm
    · exact fun hc => h.1 hc.symm

end TableSketch.Text
