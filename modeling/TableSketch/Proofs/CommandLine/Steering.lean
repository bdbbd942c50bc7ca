import TableSketch.Proofs.CommandLine.Input
import TableSketch.Proofs.Json.ReadBack
import TableSketch.Proofs.Schema.Reload
import TableSketch.Proofs.Schema.Rows

/-!
# Texts that steer no terminal

A text is printed without the sequences that steer a terminal.  These begin with the
escape character, so a text without that character is printed as it is
(`Work.echoed_of_isSteady`).

No escape comes from anywhere but the schema.  A byte that is an escape is the only one
that is read as one, and line ends are unified to line feeds (`isSteady_sketchText`).
Names of tables are words; names and types of columns are made of characters of the
schema (`isSteady_of_mem_resolved`); upper case brings no escape in
(`IsSteady.upper`); and the words around them have none.  So scripts and prompts of a
schema without escapes have none either (`isSteady_script`).  A document never has one,
whatever the tables are, because it holds controls in a spelled-out form only
(`Json.isLaidOut_prettyChars`).

## Main results

* `Work.echoed_of_isSteady` — what is printed of such a text.
* `isSteady_of_mem_resolved` — the tables of a schema.
* `isSteady_script`, `isSteady_prompt`, `isSteady_text` — what is made of them.
-/

namespace TableSketch

open Text

/-! ## Texts without escapes -/

/-- The character that starts a sequence that steers a terminal. -/
def escapeChar : Char := '\x1b'

/-- A text that steers no terminal. -/
def IsSteady (text : String) : Prop := escapeChar ∉ text.toList

instance (text : String) : Decidable (IsSteady text) :=
  inferInstanceAs (Decidable (¬ _))

namespace Work

/-- Nothing is left out of a text without escapes. -/
theorem dropSteering_eq_self {cs : List Char} (h : escapeChar ∉ cs) (fuel : Nat) :
    dropSteering fuel cs = cs := by
  induction fuel generalizing cs with
  | zero => rw [dropSteering]
  | succ fuel ih =>
      cases cs with
      | nil => rfl
      | cons c cs =>
          rw [List.mem_cons, not_or] at h
          have hstep : dropSteering (fuel + 1) (c :: cs) =
              c :: dropSteering fuel cs := by
            rw [dropSteering]
            rintro cs' rfl
            exact absurd rfl h.1
          rw [hstep, ih h.2]

/-- Such a text is printed as it is. -/
theorem echoed_of_isSteady {text : String} (h : IsSteady text) :
    echoed text = text ++ "\n" := by
  rw [echoed, dropSteering_eq_self h, String.ofList_append, String.ofList_toList]

end Work

namespace IsSteady

variable {a b : String}

theorem append_iff : IsSteady (a ++ b) ↔ IsSteady a ∧ IsSteady b := by
  simp [IsSteady]

theorem append (ha : IsSteady a) (hb : IsSteady b) : IsSteady (a ++ b) :=
  append_iff.mpr ⟨ha, hb⟩

theorem intercalate {sep : String} {texts : List String} (hsep : IsSteady sep)
    (h : ∀ text ∈ texts, IsSteady text) : IsSteady (sep.intercalate texts) := by
  intro hmem
  rw [String.toList_intercalate] at hmem
  rcases mem_intercalate hmem with hmem | ⟨cs, hcs, hmem⟩
  · exact hsep hmem
  · obtain ⟨text, htext, rfl⟩ := List.mem_map.mp hcs
    exact h text htext hmem

/-- Upper case brings no escape in. -/
theorem upper (h : IsSteady a) : IsSteady (Text.upper a) := fun hmem =>
  h (mem_of_mem_upper (by decide) hmem)

theorem of_word (h : ∀ x ∈ a.toList, isWordChar x = true) : IsSteady a := fun hmem =>
  absurd (h _ hmem) (by decide)

theorem repr_int (i : Int) : IsSteady i.repr := by
  intro hmem
  rcases mem_repr_int hmem with h | hword
  · exact absurd h (by decide)
  · exact absurd hword (by decide)

end IsSteady

/-! ## Schemas without escapes -/

/-- Unifying line ends brings line feeds in, and nothing else. -/
theorem mem_of_mem_unifyNewlines {cs : List Char} {x : Char}
    (h : x ∈ unifyNewlines cs) : x = '\n' ∨ x ∈ cs := by
  induction cs using unifyNewlines.induct with
  | case1 => cases h
  | case2 cs ih =>
      rw [unifyNewlines] at h
      rcases List.mem_cons.mp h with rfl | h
      · exact Or.inl rfl
      · exact (ih h).imp_right fun h => by simp [h]
  | case3 cs hne ih =>
      rw [unifyNewlines] at h
      · rcases List.mem_cons.mp h with rfl | h
        · exact Or.inl rfl
        · exact (ih h).imp_right fun h => by simp [h]
      · exact hne
  | case4 c cs hne hne' ih =>
      rw [unifyNewlines] at h
      · rcases List.mem_cons.mp h with rfl | h
        · exact Or.inr List.mem_cons_self
        · exact (ih h).imp_right fun h => by simp [h]
      · exact hne
      · exact hne'

/-- A schema whose bytes hold no escape is a text without. -/
theorem isSteady_sketchText {content : List UInt8} (h : 0x1B ∉ content) :
    IsSteady (Storage.sketchText content) := by
  intro hmem
  rw [Storage.sketchText, String.toList_ofList] at hmem
  rcases mem_of_mem_unifyNewlines hmem with hmem | hmem
  · exact absurd hmem (by decide)
  · obtain ⟨b, hb, hbyte⟩ := exists_mem_of_mem_decodeLossy hmem (by decide)
    obtain rfl : b = 0x1B := UInt8.toNat_inj.mp hbyte
    exact h hb

/-- A table without escapes in its name and columns. -/
structure Table.IsSteady (t : Table) : Prop where
  name : TableSketch.IsSteady t.name
  columns : ∀ c ∈ t.columns,
    TableSketch.IsSteady c.name ∧ TableSketch.IsSteady c.type

theorem isSteady_of_mem_resolved {mode : ScanMode} {text : String}
    {p : DuplicatePolicy} (h : IsSteady text) :
    ∀ t ∈ resolveDuplicates p (tables mode text), t.IsSteady := by
  intro t ht
  refine ⟨.of_word (wellFormed_of_mem_resolved mode text p t ht).name_word, ?_⟩
  intro c hc
  exact ⟨fun hmem => h (mem_of_mem_resolved ht hc (List.mem_append_left _ hmem)),
    fun hmem => h (mem_of_mem_resolved ht hc (List.mem_append_right _ hmem))⟩

/-! ## Scripts and prompts -/

section Texts

variable {t : Table} {ts : List Table}

theorem isSteady_embeddingType (dim : Int) : IsSteady (Ddl.embeddingType dim) :=
  .append (.append (by decide) (.repr_int dim)) (by decide)

theorem Table.IsSteady.columnLines (h : t.IsSteady) (flagged : Bool) (dim : Int) :
    ∀ line ∈ Ddl.columnLines t flagged dim, TableSketch.IsSteady line := by
  intro line hline
  rw [Ddl.columnLines_eq_map] at hline
  obtain ⟨r, hr, rfl⟩ := List.mem_map.mp hline
  have hvector : TableSketch.IsSteady Ddl.embeddingColumn := by decide
  have hrow : TableSketch.IsSteady r.name ∧ TableSketch.IsSteady r.type :=
    Row.forall_mem_rows
      (P := fun r => TableSketch.IsSteady r.name ∧ TableSketch.IsSteady r.type)
      (fun c hc => ⟨(h.columns c hc).1, (h.columns c hc).2.upper⟩)
      ⟨hvector, isSteady_embeddingType dim⟩ flagged r hr
  exact .append (.append (.append (by decide) hrow.1) (by decide)) hrow.2

theorem Table.IsSteady.tableStatement (h : t.IsSteady) (flagged : Bool)
    (dim : Int) : TableSketch.IsSteady (Ddl.tableStatement t flagged dim) := by
  have hlines : TableSketch.IsSteady
      (",\n".intercalate (Ddl.columnLines t flagged dim)) :=
    .intercalate (by decide) (h.columnLines flagged dim)
  exact .append (.append (.append (.append (by decide) h.name) (by decide)) hlines)
    (by decide)

/-- The script of tables without escapes. -/
theorem isSteady_script (h : ∀ t ∈ ts, t.IsSteady) (flags : Flags) (dim : Int) :
    IsSteady (Ddl.script ts flags dim) := by
  unfold Ddl.script
  split
  · decide
  · apply IsSteady.intercalate (by decide)
    intro text htext
    obtain ⟨t, ht, rfl⟩ := List.mem_map.mp htext
    exact (h t ht).tableStatement _ dim

theorem isSteady_prompt {script : String} (h : IsSteady script) :
    IsSteady (Prompt.ofScript script) :=
  .append (.append (by decide) h) (by decide)

end Texts

/-! ## Documents -/

namespace Json

/-- Only line feeds are controls in a text. -/
def IsLaidOut (cs : List Char) : Prop := ∀ x ∈ cs, x = '\n' ∨ 0x20 ≤ x.toNat

namespace IsLaidOut

variable {a b : List Char} {x : Char}

theorem append (ha : IsLaidOut a) (hb : IsLaidOut b) : IsLaidOut (a ++ b) := by
  intro x hx
  rcases List.mem_append.mp hx with hx | hx
  · exact ha x hx
  · exact hb x hx

theorem cons (hx : 0x20 ≤ x.toNat) (ha : IsLaidOut a) : IsLaidOut (x :: a) := by
  intro y hy
  rcases List.mem_cons.mp hy with rfl | hy
  · exact Or.inr hx
  · exact ha y hy

theorem of_all (h : a.all (fun x => 0x20 ≤ x.toNat) = true) : IsLaidOut a :=
  fun x hx => Or.inr (of_decide_eq_true (List.all_eq_true.mp h x hx))

theorem nil : IsLaidOut [] := fun _ hx => absurd hx List.not_mem_nil

theorem newLine (level : Nat) : IsLaidOut (newLine level) := by
  intro x hx
  rcases List.mem_cons.mp hx with rfl | hx
  · exact Or.inl rfl
  · rw [List.eq_of_mem_replicate hx]
    exact Or.inr (by decide)

theorem escaped {x : Char} (hx : 0x20 ≤ x.toNat) : IsLaidOut ['\\', x] :=
  .cons (by decide) (.cons hx .nil)

theorem stringChar (c : Char) : IsLaidOut (stringChar c) := by
  have hdigit : ∀ n < 0x10, 0x20 ≤ (Nat.digitChar n).toNat := by decide
  unfold Json.stringChar
  split
  · next h =>
      rcases (by simpa using h : c = '"' ∨ c = '\\') with rfl | rfl
      · exact .escaped (by decide)
      · exact .escaped (by decide)
  iterate 5
    split
    · exact .escaped (by decide)
  split
  · next h =>
      rw [(hex4?_paddedDigits c.toNat h).1]
      exact .cons (by decide) (.cons (by decide) (.cons (by decide) (.cons (by decide)
        (.cons (hdigit _ (by omega)) (.cons (hdigit _ (by omega)) .nil)))))
  · exact .cons (by omega) .nil

theorem stringText (s : String) : IsLaidOut (stringText s) := by
  refine .cons (by decide) (.append ?_ (.cons (by decide) .nil))
  intro x hx
  obtain ⟨c, -, hx⟩ := List.mem_flatMap.mp hx
  exact IsLaidOut.stringChar c x hx

end IsLaidOut

/-- Items on lines of their own. -/
theorem isLaidOut_prettyItems {level : Nat} {items : List Json}
    (h : ∀ j ∈ items, IsLaidOut (prettyChars level j)) :
    IsLaidOut (prettyItems level items) := by
  induction items with
  | nil => exact .nil
  | cons j js ih =>
      have hj : IsLaidOut (newLine level ++ prettyChars level j) :=
        .append (.newLine level) (h j List.mem_cons_self)
      cases js with
      | nil => exact hj
      | cons k ks =>
          rw [prettyItems]
          · exact .append hj (.cons (by decide)
              (ih fun i hi => h i (List.mem_cons_of_mem j hi)))
          · simp

/-- Fields on lines of their own. -/
theorem isLaidOut_prettyFields {level : Nat} {fields : List (String × Json)}
    (h : ∀ f ∈ fields, IsLaidOut (prettyChars level f.2)) :
    IsLaidOut (prettyFields level fields) := by
  induction fields with
  | nil => exact .nil
  | cons f fs ih =>
      have hname : IsLaidOut (newLine level ++ stringText f.1) :=
        .append (.newLine level) (.stringText f.1)
      have hvalue := h f List.mem_cons_self
      cases fs with
      | nil => exact .append hname (.cons (by decide) (.cons (by decide) hvalue))
      | cons g gs =>
          rw [prettyFields]
          · exact .append hname (.cons (by decide) (.cons (by decide)
              (.append hvalue (.cons (by decide)
                (ih fun i hi => h i (List.mem_cons_of_mem f hi))))))
          · simp

/-- **Controls are escaped**: a value is laid out with line feeds, and no other
controls are written. -/
theorem isLaidOut_prettyChars {j : Json} (h : j.IsNumberless) (level : Nat) :
    IsLaidOut (prettyChars level j) := by
  induction h generalizing level with
  | null => exact .of_all rfl
  | bool b =>
      cases b with
      | true => exact .of_all rfl
      | false => exact .of_all rfl
  | str s => exact .stringText s
  | @arr items h ih =>
      cases items with
      | nil => exact .of_all rfl
      | cons j js =>
          have hitems := isLaidOut_prettyItems fun i hi => ih i hi (level + 1)
          exact .cons (by decide)
            (.append (.append hitems (.newLine level)) (.cons (by decide) .nil))
  | @obj fields h ih =>
      cases fields with
      | nil => exact .of_all rfl
      | cons f fs =>
          have hfields := isLaidOut_prettyFields fun i hi => ih i hi (level + 1)
          exact .cons (by decide)
            (.append (.append hfields (.newLine level)) (.cons (by decide) .nil))

end Json

theorem isSteady_text (d : SchemaDocument) : IsSteady d.text := by
  intro hmem
  rw [SchemaDocument.text, Json.pretty, String.toList_ofList] at hmem
  rcases Json.isLaidOut_prettyChars d.isNumberless_toJson 0 _ hmem with h | h
  · exact absurd h (by decide)
  · exact absurd h (by decide)

end TableSketch
