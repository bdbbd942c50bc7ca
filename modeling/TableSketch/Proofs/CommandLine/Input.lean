import TableSketch.Proofs.CommandLine.Arguments
import TableSketch.Proofs.Generation.Parts
import TableSketch.Proofs.Text.Decoding

/-!
# A schema from the standard input

A command uses its schema for the tables that are loaded from it, and for nothing else
(`Command.AwaitsSchema.exists_rest`).  So where the tables of two schemas are the same,
the command does the same, whatever it does with them.

A file is read leniently: what is no character is dropped, and line ends are unified.
How the standard input is read is left to the platform.  UTF-8 is read by all of them,
with its line ends unified or kept.  Other bytes are refused, or something is made of
them (`Platform.inputText?_eq_none_iff`).  Hence a schema may be piped instead of being
named if it is UTF-8 and its line ends do not matter, and what a command prints is in
any case what it prints of the text that the platform delivers (`Program.run_piped`).

## Main results

* `Platform.inputText?_encode`, `Platform.inputText?_eq_none_iff` — the standard input.
* `Command.Prints.run_of_text` — what is printed of a schema.
* `Program.run_piped` — a schema from the standard input and from a file.
-/

namespace TableSketch

open Work

namespace Platform

variable {p : Platform} {input : List UInt8}

/-- UTF-8 is read on every platform. -/
theorem inputText?_encode (p : Platform) (cs : List Char) :
    p.inputText? (Text.encode cs) =
      some (String.ofList (if p.unifiesInput then Text.unifyNewlines cs else cs)) := by
  rw [inputText?, Text.decode?_encode]
  rfl

/-- Only what is no UTF-8 is refused, unless something is made of it. -/
theorem inputText?_eq_none_iff : p.inputText? input = none ↔
    (∀ cs, input ≠ Text.encode cs) ∧ p.malformedInput input = none := by
  rw [inputText?, Option.map_eq_none_iff]
  cases hread : Text.decode? input with
  | none =>
      have hother : ∀ cs, input ≠ Text.encode cs := by
        rintro cs rfl
        rw [Text.decode?_encode] at hread
        cases hread
      exact (and_iff_right hother).symm
  | some cs => exact iff_of_false nofun fun h => h.1 cs (Text.decode?_eq_some_iff.mp hread)

/-- UTF-8 is read like a file if line ends are unified or there are none to unify. -/
theorem inputText?_eq_sketchText {cs : List Char}
    (h : p.unifiesInput = true ∨ '\r' ∉ cs) :
    p.inputText? (Text.encode cs) = some (Storage.sketchText (Text.encode cs)) := by
  rw [inputText?_encode, Storage.sketchText, Text.decodeLossy_encode]
  split
  · rfl
  · next hkept => rw [Text.unifyNewlines_eq_self (h.resolve_left hkept)]

end Platform

namespace Work

variable {d : Desk} {input : List UInt8} {text : String}

theorem on_readInput_of_some (h : d.platform.inputText? input = some text) :
    (readInput input).on d = (.ok text, d) := by
  unfold readInput
  rw [on_bind_of_ok (on_get d), h]
  rfl

theorem on_readInput_of_none (h : d.platform.inputText? input = none) :
    (readInput input).on d = (.error .notUtf8, d) := by
  unfold readInput
  rw [on_bind_of_ok (on_get d), h]
  rfl

/-- What is printed of a text, with the end of its line. -/
def echoed (text : String) : String :=
  String.ofList (dropSteering (text.toList.length + 1) text.toList ++ ['\n'])

end Work

namespace Command

variable {d d₁ : Desk} {s s' : Surroundings} {input : List UInt8}
variable {schema schema' text : String} {policy : DuplicatePolicy}
variable {path : Path} {content : List UInt8} {cmd : String → Command}

/-- A schema from the standard input is what the platform delivers. -/
theorem on_readSchema_dash (h : d.platform.inputText? input = some text) :
    (readSchema input "-").on d = (.ok text, d) :=
  on_readInput_of_some h

/-- A schema in a file is read, whatever is in it. -/
theorem on_readSchema_file (hschema : schema ≠ "-")
    (hpath : Path.expandHome? d.storage.home? (.ofString schema) = some path)
    (hfile : d.storage.find path = .ok (some (.file content)))
    (input : List UInt8) :
    (readSchema input schema).on d = (.ok (Storage.sketchText content), d) := by
  have hdash : ¬ (schema == "-") = true := by simpa using hschema
  have hthere : (ask (·.isFile path)).on d = (.ok true, d) :=
    on_ask_of_ok (Storage.isFile_iff.mpr ⟨content, hfile⟩)
  have hread : (ask (·.readSketch path)).on d =
      (.ok (Storage.sketchText content), d) :=
    on_ask_of_ok (Storage.readSketch_of_find hfile)
  unfold readSchema
  rw [if_neg hdash, on_bind_of_ok (on_expandHome_of_some hpath),
    on_bind_of_ok hthere]
  exact hread

/-- The tables of a schema are those of its text. -/
theorem on_loadTables (h : (readSchema input schema).on d = (.ok text, d))
    (hpolicy : DuplicatePolicy.ofName? d.settings.duplicates = some policy) :
    (loadTables input schema).on d =
      (.ok (resolveDuplicates policy (tables d.settings.scanMode text)),
      { d with
        log := d.log ++ (remarks d.settings.scanMode text).map Remark.message }) := by
  unfold loadTables
  rw [on_bind_of_ok h, on_tablesOf, hpolicy]

/-- A command uses its schema for its tables only. -/
theorem AwaitsSchema.exists_rest (h : AwaitsSchema cmd) :
    ∃ k : List Table → Work (List LoopEvent), ∀ s schema,
      (cmd schema).work s = (loadTables s.input schema >>= k) := by
  cases h with
  | sql vector out => exact ⟨_, fun _ _ => rfl⟩
  | prompt vector => exact ⟨_, fun _ _ => rfl⟩
  | preview vector asJson => exact ⟨_, fun _ _ => rfl⟩

theorem AwaitsSchema.run_congr (h : AwaitsSchema cmd)
    (hload : (loadTables s.input schema).on d = (loadTables s'.input schema').on d) :
    (cmd schema).run s d = (cmd schema').run s' d := by
  obtain ⟨k, hk⟩ := h.exists_rest
  have hwork : ((cmd schema).work s).on d = ((cmd schema').work s').on d := by
    rw [hk, hk, on_bind, on_bind, hload]
  rw [run, run, hwork]

/-- The text that a command prints of the tables of its schema. -/
inductive Prints : Command → String → (List Table → Int → String) → Prop where
  | sql (schema : String) (vector : List String) :
      Prints (.sql schema vector none) schema fun ts dim =>
        Ddl.script ts (Flags.ofNames vector) dim
  | prompt (schema : String) (vector : List String) :
      Prints (.prompt schema vector) schema fun ts dim =>
        Prompt.ofScript (Ddl.script ts (Flags.ofNames vector) dim)
  | preview (schema : String) (vector : List String) :
      Prints (.preview schema vector true) schema fun ts _ =>
        (SchemaDocument.ofTables ts (Flags.ofNames vector)).text

theorem Prints.on_work {c : Command} {shown : List Table → Int → String}
    {ts : List Table} (h : Prints c schema shown)
    (hload : (loadTables s.input schema).on d = (.ok ts, d₁)) :
    (c.work s).on d = (.ok [], { d₁ with
      printed := d₁.printed ++ echoed (shown ts d₁.settings.dimension) }) := by
  cases h with
  | sql vector =>
    unfold work
    rw [on_bind_of_ok hload]
    rfl
  | prompt vector =>
    unfold work
    rw [on_bind_of_ok hload]
    rfl
  | preview vector =>
    unfold work
    rw [on_bind_of_ok hload]
    rfl

/-- **What a command prints of a schema** is told from the text of the schema. -/
theorem Prints.run_of_text {c : Command} {shown : List Table → Int → String}
    (h : Prints c schema shown)
    (hread : (readSchema s.input schema).on d = (.ok text, d))
    (hpolicy : DuplicatePolicy.ofName? d.settings.duplicates = some policy) :
    c.run s d = ({}, { d with
      log := d.log ++ (remarks d.settings.scanMode text).map Remark.message
      printed := d.printed ++ echoed (shown (resolveDuplicates policy
        (tables d.settings.scanMode text)) d.settings.dimension) }) := by
  rw [run, h.on_work (on_loadTables hread hpolicy)]

theorem AwaitsSchema.ne_help (h : AwaitsSchema cmd) (schema : String)
    (c : Option CommandName) : cmd schema ≠ .help c := by
  cases h <;> nofun

/-- What a command prints of a schema, it prints of any other. -/
theorem AwaitsSchema.prints {shown : List Table → Int → String} (h : AwaitsSchema cmd)
    (hprints : Prints (cmd schema) schema shown) (schema' : String) :
    Prints (cmd schema') schema' shown := by
  cases h with
  | sql vector out =>
    cases hprints
    exact .sql schema' vector
  | prompt vector =>
    cases hprints
    exact .prompt schema' vector
  | preview vector asJson =>
    cases hprints
    exact .preview schema' vector

/-- **A text from the standard input** is read like the same text from a file. -/
theorem AwaitsSchema.run_dash_of_some (h : AwaitsSchema cmd)
    (htext : d.platform.inputText? input = some text)
    (hread : (readSchema s.input schema).on d = (.ok text, d)) :
    (cmd "-").run { s with input := input } d = (cmd schema).run s d := by
  refine h.run_congr (s := { s with input := input }) ?_
  have hdash : (readSchema input "-").on d = (.ok text, d) := on_readSchema_dash htext
  unfold loadTables
  rw [on_bind_of_ok hdash, on_bind_of_ok hread]

/-- A schema that cannot be read is the end of a command. -/
theorem AwaitsSchema.run_of_error {f : Failure} (h : AwaitsSchema cmd)
    (hread : (readSchema s.input schema).on d = (.error f, d)) :
    (cmd schema).run s d = ({ failure := some (.work f) }, d) := by
  obtain ⟨k, hk⟩ := h.exists_rest
  have hfails : (loadTables s.input schema).on d = (.error f, d) := by
    rw [loadTables, on_bind, hread]
  rw [run, hk, on_bind, hfails]

end Command

namespace Program

open Command

/-- What a command line prints of a schema. -/
theorem run_line_of_text {c : CommandName} {args : List String} {cmd : Command}
    {schema text : String} {shown : List Table → Int → String}
    {policy : DuplicatePolicy} {s : Surroundings} {d : Desk}
    (hread : c.read args = .ok cmd) (h : cmd.Prints schema shown)
    (htext : (readSchema s.input schema).on d = (.ok text, d))
    (hpolicy : DuplicatePolicy.ofName? d.settings.duplicates = some policy)
    (verbose : Bool) (log : LogState) :
    let o := run (line verbose c args) s d log
    exitStatus o.outcome = 0 ∧
      o.desk.printed = d.printed ++ echoed (shown (resolveDuplicates policy
        (tables d.settings.scanMode text)) d.settings.dimension) := by
  intro o
  have ho : o = _ := run_line hread verbose s d log
  rw [ho, h.run_of_text htext hpolicy]
  exact ⟨rfl, rfl⟩

/-- **A schema from the standard input** and the same schema from a file.  Let a command
be given a dash instead of a file, and the content of the file on the standard input.  It
does the same if the content is UTF-8 and the platform unifies line ends or the content
has no carriage returns, and more generally if the platform delivers the text that is
read from the file.  It also does the same if its arguments are refused or ask for help.

Otherwise it prints what it prints of the text that the platform delivers, and of the
file what it prints of the text of the file.  It fails if the content is no UTF-8 and is
refused, though of the file it prints something even then. -/
theorem run_piped {c : CommandName} (hc : c ∈ [.sql, .prompt, .preview])
    {schema : String} {path : Path} {content : List UInt8} {d : Desk}
    (hschema : schema.toList.head? ≠ some '-')
    (hpath : Path.expandHome? d.storage.home? (.ofString schema) = some path)
    (hfile : d.storage.find path = .ok (some (.file content)))
    (verbose : Bool) (args : List String) (s : Surroundings) (log : LogState) :
    let piped := run (line verbose c ("-" :: args)) { s with input := content } d log
    let named := run (line verbose c (schema :: args)) s d log
    (∀ cs, content = Text.encode cs → d.platform.unifiesInput = true ∨ '\r' ∉ cs →
      piped = named) ∧
      (d.platform.inputText? content = some (Storage.sketchText content) →
        piped = named) ∧
      (∀ e, c.read (schema :: args) = .error e → piped = named) ∧
      (c.read (schema :: args) = .ok (.help c) → piped = named) ∧
      ∀ cmd, c.read (schema :: args) = .ok cmd → cmd ≠ .help c →
        ((∀ cs, content ≠ Text.encode cs) → d.platform.malformedInput content = none →
          piped.outcome.failure = some (.work .notUtf8) ∧
            exitStatus piped.outcome = 1 ∧ piped.desk = d) ∧
        ∀ shown policy, cmd.Prints schema shown →
          DuplicatePolicy.ofName? d.settings.duplicates = some policy →
          let printed := fun text => d.printed ++ echoed (shown (resolveDuplicates policy
            (tables d.settings.scanMode text)) d.settings.dimension)
          (∀ text, d.platform.inputText? content = some text →
            exitStatus piped.outcome = 0 ∧ piped.desk.printed = printed text) ∧
          exitStatus named.outcome = 0 ∧
            named.desk.printed = printed (Storage.sketchText content) := by
  intro piped named
  have hne : schema ≠ "-" := by
    rintro rfl
    exact hschema rfl
  -- What the arguments spell out is the same for the dash and for the file.
  rcases CommandName.read_schema hc args with ⟨e, hread⟩ | hread | ⟨cmd, hcmd, hread⟩
  · have hsame : piped = named :=
      (run_line_error (hread "-" (.inl rfl)) ..).trans
        (run_line_error (hread schema (.inr hschema)) ..).symm
    refine ⟨fun _ _ _ => hsame, fun _ => hsame, fun _ _ => hsame, fun _ => hsame, ?_⟩
    intro cmd hok
    rw [hread schema (.inr hschema)] at hok
    cases hok
  · have hsame : piped = named :=
      (run_line_help (hread "-" (.inl rfl)) ..).trans
        (run_line_help (hread schema (.inr hschema)) ..).symm
    refine ⟨fun _ _ _ => hsame, fun _ => hsame, fun _ _ => hsame, fun _ => hsame, ?_⟩
    intro cmd hok hhelp
    rw [hread schema (.inr hschema)] at hok
    exact absurd (Except.ok.inj hok).symm hhelp
  · have hpiped : piped = _ := run_line (hread "-" (.inl rfl)) ..
    have hok := hread schema (.inr hschema)
    have hnamed : named = _ := run_line hok ..
    have hfileText := on_readSchema_file hne hpath hfile s.input
    have hsame : d.platform.inputText? content = some (Storage.sketchText content) →
        piped = named := by
      intro htext
      rw [hpiped, hnamed, hcmd.run_dash_of_some htext hfileText]
    refine ⟨?_, hsame, ?_, ?_, ?_⟩
    · rintro cs rfl hends
      exact hsame (Platform.inputText?_eq_sketchText hends)
    · intro e herror
      rw [hok] at herror
      cases herror
    · intro hhelp
      rw [hok] at hhelp
      exact absurd (Except.ok.inj hhelp) (hcmd.ne_help schema c)
    · intro cmd' hok' _
      obtain rfl := Except.ok.inj (hok.symm.trans hok')
      refine ⟨fun hcontent hrefused => ?_, fun shown policy hprints hpolicy => ⟨?_, ?_⟩⟩
      · have hnone := Platform.inputText?_eq_none_iff.mpr ⟨hcontent, hrefused⟩
        have hdash : (readSchema content "-").on d = (.error .notUtf8, d) :=
          on_readInput_of_none hnone
        rw [hpiped, hcmd.run_of_error (s := { s with input := content }) hdash]
        exact ⟨rfl, rfl, rfl⟩
      · intro text htext
        have hdash : (readSchema content "-").on d = (.ok text, d) :=
          on_readSchema_dash htext
        exact run_line_of_text (s := { s with input := content })
          (hread "-" (.inl rfl)) (hcmd.prints hprints "-") hdash hpolicy verbose log
      · exact run_line_of_text hok hprints hfileText hpolicy verbose log

/-- A schema with other line ends and a letter beyond ASCII. -/
def accentedContent : List UInt8 :=
  Text.encode (r"T: {shape: sql_table" ++ "\r\n" ++ r"prénom: text}").toList

def accentedDesk : Desk where
  storage.tree := ⟨[(["a.d2"], .file accentedContent)]⟩

/-- It may as well be piped where line ends are unified. -/
theorem run_piped_of_accentedDesk :
    run (line false .sql ["-", "--vector", "T"]) { input := accentedContent }
        accentedDesk {} =
      run (line false .sql ["a.d2", "--vector", "T"]) {} accentedDesk {} ∧
    exitStatus (run (line false .sql ["a.d2", "--vector", "T"]) {} accentedDesk
      {}).outcome = 0 := by
  have hschema : "a.d2".toList.head? ≠ some '-' := by decide
  have hpath : Path.expandHome? accentedDesk.storage.home? (.ofString "a.d2") =
      some (.ofString "a.d2") := by
    decide
  have hread : CommandName.sql.read ["a.d2", "--vector", "T"] =
      .ok (.sql "a.d2" ["T"] none) := by
    decide
  obtain ⟨hsame, -, -, -, hwork⟩ := run_piped (c := .sql) (by decide) hschema hpath rfl
    false ["--vector", "T"] {} {}
  obtain ⟨-, hstatus, -⟩ :=
    (hwork _ hread nofun).2 _ .keep (.sql "a.d2" ["T"]) (by decide)
  exact ⟨hsame _ rfl (.inl rfl), hstatus⟩

/-- A schema file with a byte that belongs to no character. -/
def strayDesk : Desk where
  storage.tree := ⟨[(["a.d2"], .file [0xFF])]⟩

/-- A schema with carriage returns for line ends. -/
def returnContent : List UInt8 :=
  Text.encode (r"T: {shape: sql_table" ++ "\r" ++ r"id: int}").toList

/-- It stands in a file, and the standard input keeps its line ends. -/
def returnDesk : Desk where
  storage.tree := ⟨[(["a.d2"], .file returnContent)]⟩
  platform := { unifiesInput := false }

/-- Where malformed input is refused, the stray byte makes a schema without tables if it
comes from the file, and a failure if it comes from the standard input.  Where line ends
are kept, the other schema has a table if it comes from the file, and none if it comes
from the standard input. -/
theorem run_piped_of_strayDesk :
    (let piped := run (line false .sql ["-"]) { input := [0xFF] } strayDesk {}
     let named := run (line false .sql ["a.d2"]) {} strayDesk {}
     exitStatus piped.outcome = 1 ∧ piped.desk.printed = "" ∧
      exitStatus named.outcome = 0 ∧
      named.desk.printed =
        "-- No valid tables found.\n-- Use shape: sql_table\n") ∧
    (let piped := run (line false .sql ["-"]) { input := returnContent } returnDesk {}
     let named := run (line false .sql ["a.d2"]) {} returnDesk {}
     piped.desk.printed = "-- No valid tables found.\n-- Use shape: sql_table\n" ∧
      named.desk.printed = "CREATE TABLE T (\n  id INT\n);\n") := by
  decide +kernel

end Program

end TableSketch
