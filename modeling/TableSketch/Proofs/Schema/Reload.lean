import Mathlib.Data.List.Basic
import TableSketch.Proofs.Schema.Documents
import TableSketch.Proofs.Schema.Names
import TableSketch.Session

/-!
# Reloading a session

A session that is written out and read in again has its tables back.  Its
flags are not the same: values of any kind have become truth values, flags of
absent tables are gone, and every name of a table has a flag now, whether it
had one or not.  Nobody can tell, because all that is ever asked of the flags
is whether they mark the name of a table (`SameMarks`).

Flags are stored under names, but a document holds one for each table.  All
tables of a name get the same one, so storing it again for the next table of
that name changes nothing, and the flags of a document depend on the names of
the tables by first occurrence only (`entries_flags_ofTables`).  These are the
names that every policy for duplicates leaves, so that flags do not change
when duplicates are resolved before.

## Main results

* `entries_flags_ofTables` — the flags of a document.
* `reload?_eq` — what a session is after reloading.
* `reload_invisible` — reloading cannot be seen.
-/

namespace TableSketch

/-! ## What is asked of the flags -/

/-- Flags that mark the same of the tables. -/
def SameMarks (ts : List Table) (flags flags' : Flags) : Prop :=
  ∀ t ∈ ts, flags.marks t.name = flags'.marks t.name

namespace SameMarks

variable {ts : List Table} {flags flags' : Flags}

theorem script_eq (h : SameMarks ts flags flags') (dim : Int) :
    Ddl.script ts flags dim = Ddl.script ts flags' dim := by
  have hstatements :
      ts.map (fun t => Ddl.tableStatement t (flags.marks t.name) dim) =
        ts.map fun t => Ddl.tableStatement t (flags'.marks t.name) dim :=
    List.map_congr_left fun t ht => by rw [h t ht]
  rw [Ddl.script, Ddl.script, hstatements]

theorem markdown_eq (h : SameMarks ts flags flags') (dim : Int) :
    Preview.markdown ts flags dim = Preview.markdown ts flags' dim := by
  have hcount : (ts.countP fun t => flags.marks t.name) =
      ts.countP fun t => flags'.marks t.name :=
    List.countP_congr fun t ht => by rw [h t ht]
  have hlines :
      ts.map (fun t => Preview.tableLines t (flags.marks t.name) dim) =
        ts.map fun t => Preview.tableLines t (flags'.marks t.name) dim :=
    List.map_congr_left fun t ht => by rw [h t ht]
  unfold Preview.markdown Preview.summary Preview.sections
  rw [hcount, List.flatMap_def, hlines, List.flatMap_def]

theorem ofTables_eq (h : SameMarks ts flags flags') :
    SchemaDocument.ofTables ts flags = SchemaDocument.ofTables ts flags' := by
  have htables : ts.map (fun t => FlaggedTable.mk t (flags.marks t.name)) =
      ts.map fun t => FlaggedTable.mk t (flags'.marks t.name) :=
    List.map_congr_left fun t ht => by rw [h t ht]
  rw [SchemaDocument.ofTables, htables, SchemaDocument.ofTables]

end SameMarks

/-! ## The flags of a document -/

namespace Flags

variable {flags : Flags} {name : String} {v : Json}

/-- A new name goes to the end. -/
theorem entries_set_of_not_mem (h : name ∉ flags.entries.map Prod.fst) :
    (flags.set name v).entries = flags.entries ++ [(name, v)] := by
  rw [set, if_neg (by rwa [List.contains_iff_mem])]

/-- Storing what is stored changes nothing. -/
theorem set_eq_self (h : name ∈ flags.entries.map Prod.fst)
    (hv : ∀ e ∈ flags.entries, e.1 = name → e.2 = v) :
    flags.set name v = flags := by
  have hentries : flags.entries.map
      (fun e => if e.1 == name then (name, v) else e) = flags.entries := by
    refine (List.map_congr_left fun e he => ?_).trans (List.map_id _)
    split
    · next heq =>
        have hname : e.1 = name := beq_iff_eq.mp heq
        rw [← hname, ← hv e he hname]
        rfl
    · rfl
  rw [set, if_pos (by rwa [List.contains_iff_mem]), hentries]

end Flags

namespace SchemaDocument

variable {ts us : List Table} {flags flags' : Flags}

theorem flags_ofTables_concat (ts : List Table) (t : Table) (flags : Flags) :
    (ofTables (ts ++ [t]) flags).flags =
      (ofTables ts flags).flags.set t.name (.bool (flags.marks t.name)) := by
  simp [SchemaDocument.flags, ofTables]

/-- **The flags of a document**: one truth value for each name of a table, in
the order of first occurrence. -/
theorem entries_flags_ofTables (ts : List Table) (flags : Flags) :
    (ofTables ts flags).flags.entries =
      (ts.map Table.name).eraseDups.map
        fun n => (n, .bool (flags.marks n)) := by
  induction ts using List.reverseRecOn with
  | nil => rfl
  | append_singleton ts t ih =>
      have hnames : (ofTables ts flags).flags.entries.map Prod.fst =
          (ts.map Table.name).eraseDups := by
        rw [ih, List.map_map]
        exact List.map_id _
      have hvalues : ∀ e ∈ (ofTables ts flags).flags.entries,
          e.1 = t.name → e.2 = .bool (flags.marks t.name) := by
        intro e he hname
        rw [ih] at he
        obtain ⟨n, -, rfl⟩ := List.mem_map.mp he
        exact congrArg (fun n => Json.bool (flags.marks n)) hname
      rw [flags_ofTables_concat, List.map_append, List.map_singleton]
      by_cases h : t.name ∈ ts.map Table.name
      · rw [Flags.set_eq_self (by rwa [hnames, List.mem_eraseDups]) hvalues, ih,
          eraseDups_concat_of_mem h]
      · rw [Flags.entries_set_of_not_mem
            (by rwa [hnames, List.mem_eraseDups]), ih,
          eraseDups_concat_of_not_mem h, List.map_append, List.map_singleton]

/-- The flags of a document mark the tables that were marked. -/
theorem sameMarks_flags_ofTables (ts : List Table) (flags : Flags) :
    SameMarks ts (ofTables ts flags).flags flags := by
  intro t ht
  have hname : t.name ∈ (ts.map Table.name).eraseDups := by
    rw [List.mem_eraseDups]
    exact List.mem_map_of_mem ht
  unfold Flags.marks Flags.get?
  rw [entries_flags_ofTables, List.lookup_graph _ hname]
  rfl

/-- Schemas with the same names by first occurrence have the same flags. -/
theorem flags_ofTables_congr
    (h : (ts.map Table.name).eraseDups = (us.map Table.name).eraseDups) :
    (ofTables ts flags).flags = (ofTables us flags).flags := by
  have hentries : (ofTables ts flags).flags.entries =
      (ofTables us flags).flags.entries := by
    rw [entries_flags_ofTables, h, entries_flags_ofTables]
  exact congrArg Flags.mk hentries

end SchemaDocument

/-! ## Reloading -/

namespace Session

open SchemaDocument (ofTables)

/-- **A session after reloading**: its tables, with the flags of their
document. -/
theorem reload?_eq (s : Session) :
    s.reload? = some ⟨s.tables, (ofTables s.tables s.flags).flags⟩ := by
  have htables : (ofTables s.tables s.flags).tables.map FlaggedTable.table =
      s.tables := by
    simp [ofTables, Function.comp_def]
  unfold reload? document
  rw [SchemaDocument.read?_text]
  simp only [SchemaDocument.ofJson_toJson]
  rw [Except.toOption, Option.map_some, ofDocument, htables]

/-- **Reloading cannot be seen.**  The tables are the same, and the flags hold
one truth value for each of their names.  The data definition and the preview
of any dimension and the document have the same texts as before, and another
reloading changes nothing more.  It makes no difference whether duplicates are
resolved before or after. -/
theorem reload_invisible (s : Session) :
    ∃ s', s.reload? = some s' ∧ s'.tables = s.tables ∧
      s'.flags.entries = (s.tables.map Table.name).eraseDups.map
        (fun n => (n, .bool (s.flags.marks n))) ∧
      (∀ dim, Ddl.script s'.tables s'.flags dim =
        Ddl.script s.tables s.flags dim) ∧
      (∀ dim, Preview.markdown s'.tables s'.flags dim =
        Preview.markdown s.tables s.flags dim) ∧
      s'.document.text = s.document.text ∧
      s'.reload? = some s' ∧
      ∀ p, (s.resolveDuplicates p).reload? =
        some (s'.resolveDuplicates p) := by
  obtain ⟨ts, flags⟩ := s
  have hmarks := SchemaDocument.sameMarks_flags_ofTables ts flags
  refine ⟨⟨ts, (ofTables ts flags).flags⟩, reload?_eq _, rfl,
    SchemaDocument.entries_flags_ofTables ts flags, hmarks.script_eq,
    hmarks.markdown_eq, ?_, ?_, fun p => ?_⟩
  · exact congrArg SchemaDocument.text hmarks.ofTables_eq
  · rw [reload?_eq, hmarks.ofTables_eq]
  · have hnames :
        ((TableSketch.resolveDuplicates p ts).map Table.name).eraseDups =
          (ts.map Table.name).eraseDups := by
      by_cases hp : p = .keep
      · subst hp
        rfl
      · rw [map_name_resolveDuplicates hp, eraseDups_eraseDups]
    rw [reload?_eq]
    unfold Session.resolveDuplicates
    rw [SchemaDocument.flags_ofTables_congr hnames]

end Session

end TableSketch
