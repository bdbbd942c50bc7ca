import TableSketch.Proofs.Json.ReadBack
import TableSketch.Schema.Document

/-!
# Documents are read back

A document leaves the program as text and comes back in two steps: the text is
read as a JSON value, and the value is checked field by field.  The first step
undoes the writing for every value without numbers
(`TableSketch.Json.read?_pretty`).  The second one accepts more than is ever
written, but the fields that are written are all it asks for, in the plainest
of the forms that it takes: strings, lists, and truth values as such.

That a written column or table passes its check holds at every place, because
places are only named in issues (`checkList_map`).

## Main results

* `ofJson_toJson` — the value of a document is checked without issues and
  gives the document.
* `read?_text` — the text of a document is read as its value.
* `text_read_back` — documents, and schemas with their flags, are read back
  from their texts.
-/

namespace TableSketch.SchemaDocument

/-! ## Checking what was written -/

section Check

variable {α : Type}

/-- A list passes if its items do, wherever they stand. -/
theorem checkList_map {item : List Step → Json → Checked α} {form : α → Json}
    (h : ∀ place a, item place (form a) = .ok a) (place : List Step)
    (as : List α) : checkList item place (.arr (as.map form)) = .ok as := by
  have hitems :
      (as.map form).mapIdx (fun i j => item (place ++ [.item i]) j) =
        as.map Except.ok := by
    refine List.ext_getElem (by simp) fun i _ _ => ?_
    simp [h]
  rw [checkList, hitems, Checked.all_map_ok]

theorem checkColumn_columnJson (place : List Step) (c : Column) :
    checkColumn place (columnJson c) = .ok c := rfl

theorem checkTable_tableJson (place : List Step) (t : FlaggedTable) :
    checkTable place (tableJson t) = .ok t := by
  have hcolumns := checkList_map checkColumn_columnJson
    (place ++ [.field "columns"]) t.table.columns
  have hfields : checkTable place (tableJson t) =
      (Checked.both (.ok t.table.name)
        (Checked.both
          (checkList checkColumn (place ++ [.field "columns"])
            (.arr (t.table.columns.map columnJson)))
          (.ok t.flagged))).map fun f => ⟨⟨f.1, f.2.1⟩, f.2.2⟩ := rfl
  rw [hfields, hcolumns]
  rfl

/-- **A written document passes its check** and is what it was. -/
theorem ofJson_toJson (d : SchemaDocument) : ofJson d.toJson = .ok d := by
  have htables := checkList_map checkTable_tableJson [.field "tables"] d.tables
  have hfields : ofJson d.toJson =
      (checkList checkTable [.field "tables"]
        (.arr (d.tables.map tableJson))).map SchemaDocument.mk := rfl
  rw [hfields, htables]
  rfl

end Check

/-! ## Reading what was written -/

open Json (IsNumberless)

theorem isNumberless_columnJson (c : Column) : IsNumberless (columnJson c) := by
  refine .obj ?_
  simp only [List.forall_mem_cons]
  exact ⟨.str c.name, .str c.type, fun f hf => nomatch hf⟩

theorem isNumberless_tableJson (t : FlaggedTable) :
    IsNumberless (tableJson t) := by
  refine .obj ?_
  simp only [List.forall_mem_cons]
  refine ⟨.str t.table.name, .arr ?_, .bool t.flagged, fun f hf => nomatch hf⟩
  intro j hj
  obtain ⟨c, -, rfl⟩ := List.mem_map.mp hj
  exact isNumberless_columnJson c

theorem isNumberless_toJson (d : SchemaDocument) : IsNumberless d.toJson := by
  refine .obj fun f hf => ?_
  obtain rfl := List.mem_singleton.mp hf
  refine .arr fun j hj => ?_
  obtain ⟨t, -, rfl⟩ := List.mem_map.mp hj
  exact isNumberless_tableJson t

/-- **The text of a document** is read as its value. -/
theorem read?_text (d : SchemaDocument) : Json.read? d.text = some d.toJson :=
  Json.read?_pretty (isNumberless_toJson d)

/-- **Documents are read back.**  Whatever its strings hold, the text of a
document is read as a value that passes the check and gives the document.  In
particular a schema comes back with its tables as they were, each with the
truth value of what is stored under its name. -/
theorem text_read_back :
    (∀ d : SchemaDocument,
      ∃ j, Json.read? d.text = some j ∧ ofJson j = .ok d) ∧
    ∀ (ts : List Table) (flags : Flags),
      ∃ j d, Json.read? (ofTables ts flags).text = some j ∧ ofJson j = .ok d ∧
        d.tables.map FlaggedTable.table = ts ∧
        d.tables.map FlaggedTable.flagged =
          ts.map fun t => flags.marks t.name := by
  have hread : ∀ d : SchemaDocument,
      ∃ j, Json.read? d.text = some j ∧ ofJson j = .ok d :=
    fun d => ⟨d.toJson, read?_text d, ofJson_toJson d⟩
  refine ⟨hread, fun ts flags => ?_⟩
  obtain ⟨j, htext, hcheck⟩ := hread (ofTables ts flags)
  refine ⟨j, ofTables ts flags, htext, hcheck, ?_, ?_⟩
  · simp [ofTables, Function.comp_def]
  · simp [ofTables, Function.comp_def]

end TableSketch.SchemaDocument
