import TableSketch.CommandLine.Program

/-!
# Command lines

A command line is the word for a command, perhaps behind the option that turns on the
log, and the arguments of the command (`Program.line`).  What comes of it is what
comes of the command that the arguments spell out (`Program.run_line`).

An operand is a dash alone or a text that does not begin with a dash, so that it can
be told from an option (`Arguments.read_cons_of_isOperand`).  The operand that names a
schema has no part in the way in which the other arguments are read: put another one in
its place, and the same command is spelled out for another schema, or help is asked for
all the same, or the arguments are refused for the same reason
(`CommandName.read_schema`).

## Main results

* `CommandName.read_flagging` — an operand, an option and the names of flagged tables.
* `CommandName.read_schema` — the operand of a command that reads a schema.
* `Program.run_line` — what comes of a command line.
-/

namespace TableSketch

/-! ## Operands and options -/

/-- An argument that is no option wherever it stands: a dash alone, or anything that
does not begin with a dash. -/
def IsOperand (arg : String) : Prop :=
  arg = "-" ∨ arg.toList.head? ≠ some '-'

namespace Arguments

variable {arg : String} {specs : List OptionSpec}

theorem read_cons_of_isOperand (h : IsOperand arg) (specs : List OptionSpec)
    (rest : List String) :
    read specs false (arg :: rest) = (read specs false rest).map (addOperand arg) := by
  have hdashes : (arg == "--") = false := by
    rw [beq_eq_false_iff_ne]
    rintro rfl
    revert h
    unfold IsOperand
    decide
  have hoption : isOption arg = false := by
    unfold isOption
    split
    · next c cs harg =>
        rcases h with rfl | h
        · cases harg
        · rw [harg] at h
          exact absurd rfl h
    · rfl
  conv =>
    lhs
    unfold read
  simp only [hdashes, hoption, Bool.false_eq_true, if_false]

/-- The arguments that flag the tables of some names. -/
def flagging (names : List String) : List String :=
  names.flatMap fun name => ["--vector", name]

/-- They are read as what they say, whatever the names look like. -/
theorem read_flagging (more : List OptionSpec) (names : List String) :
    read (CommandName.vectorOption :: more) false (flagging names) =
      .ok ⟨names.map fun name => ("--vector", name), []⟩ := by
  induction names with
  | nil => rfl
  | cons name names ih =>
      have hstep : read (CommandName.vectorOption :: more) false
          (flagging (name :: names)) =
          (read (CommandName.vectorOption :: more) false (flagging names)).map
            (addOptions [("--vector", name)]) := rfl
      rw [hstep, ih]
      rfl

/-- An operand with some options and the names of flagged tables, sorted out. -/
def flagged (operand : String) (found : List (String × String))
    (names : List String) : Arguments :=
  ⟨found ++ names.map fun name => ("--vector", name), [operand]⟩

variable {operand : String} {found : List (String × String)} {names : List String}

@[simp]
theorem operands_flagged : (flagged operand found names).operands = [operand] := rfl

@[simp]
theorem values_flagged (option : String) :
    (flagged operand found names).values option =
      (found.filter (·.1 == option)).map Prod.snd ++
        if option = "--vector" then names else [] := by
  unfold values flagged
  rw [List.filter_append, List.map_append]
  congr 1
  split
  · next h =>
      rw [List.filter_eq_self.mpr (by simp [h]), List.map_map]
      exact List.map_id names
  · next h =>
      rw [List.filter_eq_nil_iff.mpr (by simp [Ne.symm h])]
      rfl

theorem has_flagged {option value : String} (h : (option, value) ∈ found) :
    (flagged operand found names).has option = true := by
  rw [has, List.contains_iff_mem]
  exact List.mem_map.mpr ⟨_, List.mem_append_left _ h, rfl⟩

/-- A name behind an option with a value does not ask for help, whatever it is. -/
theorem wantsHelp_flagged (h : ∀ o ∈ found, o.1 ≠ OptionSpec.help.name) :
    (flagged operand found names).wantsHelp = false := by
  rw [wantsHelp, has, List.contains_eq_mem, decide_eq_false_iff_not, List.mem_map]
  rintro ⟨o, ho, hname⟩
  rcases List.mem_append.mp ho with hfound | hflag
  · exact h o hfound hname
  · obtain ⟨name, -, rfl⟩ := List.mem_map.mp hflag
    have hvector : "--vector" ≠ OptionSpec.help.name := by decide
    exact hvector hname

end Arguments

namespace CommandName

variable {c : CommandName} {operand out : String} {args : List String}

theorem read_of_eq_ok {a : Arguments} (h : Arguments.read c.options false args = .ok a)
    (hhelp : a.wantsHelp = false) : c.read args = c.command a := by
  rw [read, h]
  exact if_neg (by simp [hhelp])

theorem read_of_wantsHelp {a : Arguments}
    (h : Arguments.read c.options false args = .ok a) (hhelp : a.wantsHelp = true) :
    c.read args = .ok (.help c) := by
  rw [read, h]
  exact if_pos hhelp

theorem read_of_eq_error {e : UsageError}
    (h : Arguments.read c.options false args = .error e) :
    c.read args = .error (.usage e) := by
  rw [read, h]

/-- **An operand, an option and the names of flagged tables** are read as what they
say. -/
theorem read_flagging (hoperand : IsOperand operand) {option : List String}
    {found : List (String × String)}
    (hoption : ∀ rest, Arguments.read c.options false (option ++ rest) =
      (Arguments.read c.options false rest).map (Arguments.addOptions found))
    (hhelp : ∀ o ∈ found, o.1 ≠ OptionSpec.help.name) (names : List String) :
    c.read (operand :: option ++ Arguments.flagging names) =
      c.command (.flagged operand found names) := by
  obtain ⟨more, hmore⟩ : ∃ more, c.options = vectorOption :: more := by
    cases c <;> exact ⟨_, rfl⟩
  refine read_of_eq_ok ?_ (Arguments.wantsHelp_flagged hhelp)
  rw [List.cons_append, Arguments.read_cons_of_isOperand hoperand, hoption, hmore,
    Arguments.read_flagging]
  rfl

/-- No option is nothing to read. -/
theorem read_nil_append (c : CommandName) (rest : List String) :
    Arguments.read c.options false ([] ++ rest) =
      (Arguments.read c.options false rest).map (Arguments.addOptions []) := by
  rw [List.nil_append]
  cases Arguments.read c.options false rest <;> rfl

theorem read_sql (h : IsOperand operand) (names : List String) :
    sql.read (operand :: [] ++ Arguments.flagging names) =
      .ok (.sql operand names none) := by
  rw [read_flagging h (read_nil_append sql) (by simp), command]
  simp [pathTexts, Arguments.value?]

theorem read_prompt (h : IsOperand operand) (names : List String) :
    prompt.read (operand :: [] ++ Arguments.flagging names) =
      .ok (.prompt operand names) := by
  rw [read_flagging h (read_nil_append prompt) (by simp), command]
  simp [pathTexts]

theorem read_preview_json (h : IsOperand operand) (names : List String) :
    preview.read (operand :: ["--json"] ++ Arguments.flagging names) =
      .ok (.preview operand names true) := by
  have hoption : ∀ rest, Arguments.read preview.options false (["--json"] ++ rest) =
      (Arguments.read preview.options false rest).map
        (Arguments.addOptions [("--json", "")]) := fun _ => rfl
  rw [read_flagging h hoption (by decide), command]
  simp [pathTexts, Arguments.has_flagged List.mem_cons_self]

theorem read_generate (h : IsOperand operand)
    (hpath : (Path.ofString operand).hasTerminator = false) (names : List String) :
    generate.read (operand :: [] ++ Arguments.flagging names) =
      .ok (.generate operand names none) := by
  rw [read_flagging h (read_nil_append generate) (by simp), command]
  simp [pathTexts, Arguments.value?, hpath]

/-- A file to write to is taken unless its path can name nothing. -/
theorem read_sql_out (h : IsOperand operand) (out : String) (names : List String) :
    sql.read (operand :: ["--out", out] ++ Arguments.flagging names) =
      if (Path.ofString out).hasTerminator then
        .error (.work (.storage .terminatorInName))
      else .ok (.sql operand names (some out)) := by
  have hoption : ∀ rest, Arguments.read sql.options false (["--out", out] ++ rest) =
      (Arguments.read sql.options false rest).map
        (Arguments.addOptions [("--out", out)]) := fun _ => rfl
  have hhelp : ∀ o ∈ [("--out", out)], o.1 ≠ OptionSpec.help.name := by
    intro o ho
    have hout : "--out" ≠ OptionSpec.help.name := by decide
    rw [List.mem_singleton.mp ho]
    exact hout
  rw [read_flagging h hoption hhelp, command]
  simp [pathTexts, Arguments.value?]

end CommandName

/-! ## Commands that read a schema -/

/-- A command that waits for the operand that names its schema. -/
inductive Command.AwaitsSchema : (String → Command) → Prop where
  | sql (vector : List String) (out : Option String) :
      AwaitsSchema fun schema => .sql schema vector out
  | prompt (vector : List String) :
      AwaitsSchema fun schema => .prompt schema vector
  | preview (vector : List String) (asJson : Bool) :
      AwaitsSchema fun schema => .preview schema vector asJson

namespace CommandName

/-- An operand more is the schema of a command, if it is the only operand. -/
theorem command_addOperand {c : CommandName} (hc : c ∈ [sql, prompt, preview])
    (a : Arguments) :
    (∃ e, ∀ schema, c.command (a.addOperand schema) = .error e) ∨
      ∃ cmd, Command.AwaitsSchema cmd ∧
        ∀ schema, c.command (a.addOperand schema) = .ok (cmd schema) := by
  have hpaths : ∀ schema, c.pathTexts (a.addOperand schema) = c.pathTexts a := by
    intro schema
    simp only [List.mem_cons, List.not_mem_nil, or_false] at hc
    rcases hc with rfl | rfl | rfl <;> rfl
  by_cases hend : ((c.pathTexts a).any fun s => (Path.ofString s).hasTerminator) = true
  · refine Or.inl ⟨.work (.storage .terminatorInName), fun schema => ?_⟩
    rw [command, hpaths, if_pos hend]
  cases hothers : a.operands with
  | cons other others =>
      refine Or.inl ⟨.usage .badUsage, fun schema => ?_⟩
      rw [command, hpaths, if_neg hend]
      simp only [Arguments.addOperand, hothers]
  | nil =>
      right
      simp only [List.mem_cons, List.not_mem_nil, or_false] at hc
      rcases hc with rfl | rfl | rfl
      · refine ⟨_, .sql (a.values "--vector") (a.value? "--out"), fun schema => ?_⟩
        rw [command, hpaths, if_neg hend]
        simp only [Arguments.addOperand, hothers]
        rfl
      · refine ⟨_, .prompt (a.values "--vector"), fun schema => ?_⟩
        rw [command, hpaths, if_neg hend]
        simp only [Arguments.addOperand, hothers]
        rfl
      · refine ⟨_, .preview (a.values "--vector") (a.has "--json"), fun schema => ?_⟩
        rw [command, hpaths, if_neg hend]
        simp only [Arguments.addOperand, hothers]
        rfl

/-- **The operand that names a schema** has no part in how the other arguments are
read. -/
theorem read_schema {c : CommandName} (hc : c ∈ [sql, prompt, preview])
    (args : List String) :
    (∃ e, ∀ schema, IsOperand schema → c.read (schema :: args) = .error e) ∨
      (∀ schema, IsOperand schema → c.read (schema :: args) = .ok (.help c)) ∨
      ∃ cmd, Command.AwaitsSchema cmd ∧
        ∀ schema, IsOperand schema → c.read (schema :: args) = .ok (cmd schema) := by
  cases hargs : Arguments.read c.options false args with
  | error e =>
      refine Or.inl ⟨.usage e, fun schema hschema => ?_⟩
      apply read_of_eq_error
      rw [Arguments.read_cons_of_isOperand hschema, hargs]
      rfl
  | ok a =>
      have hsorted : ∀ schema, IsOperand schema →
          Arguments.read c.options false (schema :: args) = .ok (a.addOperand schema) := by
        intro schema hschema
        rw [Arguments.read_cons_of_isOperand hschema, hargs]
        rfl
      cases hhelp : a.wantsHelp with
      | true =>
          exact Or.inr (Or.inl fun schema hschema =>
            read_of_wantsHelp (hsorted schema hschema) hhelp)
      | false =>
          have hread : ∀ schema, IsOperand schema →
              c.read (schema :: args) = c.command (a.addOperand schema) :=
            fun schema hschema => read_of_eq_ok (hsorted schema hschema) hhelp
          rcases command_addOperand hc a with ⟨e, he⟩ | ⟨cmd, hcmd, hok⟩
          · exact Or.inl ⟨e, fun schema hschema =>
              (hread schema hschema).trans (he schema)⟩
          · exact Or.inr (Or.inr ⟨cmd, hcmd, fun schema hschema =>
              (hread schema hschema).trans (hok schema)⟩)

end CommandName

namespace Program

/-- A command line: the word for a command with its arguments, perhaps behind the
option that turns on the log. -/
def line (verbose : Bool) (c : CommandName) (args : List String) : List String :=
  (if verbose then ["--verbose"] else []) ++ c.word :: args

/-- The log behind it. -/
def logAfter (verbose : Bool) (log : LogState) : LogState :=
  if verbose then log.turnOn else log

theorem read_line (verbose : Bool) (c : CommandName) (args : List String)
    (log : LogState) :
    read (line verbose c args) log = (c.read args, logAfter verbose log) := by
  cases verbose <;> cases c <;> rfl

variable {c : CommandName} {args : List String} {s : Surroundings} {d : Desk}

/-- What comes of a command line with arguments that spell out a command. -/
theorem run_line {cmd : Command} (h : c.read args = .ok cmd) (verbose : Bool)
    (s : Surroundings) (d : Desk) (log : LogState) :
    run (line verbose c args) s d log =
      ⟨(cmd.run s d).1, (cmd.run s d).2, logAfter verbose log⟩ := by
  rw [run, read_line, h]

/-- What comes of one that is refused. -/
theorem run_line_error {e : CommandFailure} (h : c.read args = .error e)
    (verbose : Bool) (s : Surroundings) (d : Desk) (log : LogState) :
    run (line verbose c args) s d log =
      ⟨{ failure := some e }, d, logAfter verbose log⟩ := by
  rw [run, read_line, h]

/-- What comes of one that asks for help. -/
theorem run_line_help (h : c.read args = .ok (.help c)) (verbose : Bool)
    (s : Surroundings) (d : Desk) (log : LogState) :
    run (line verbose c args) s d log = ⟨{}, d, logAfter verbose log⟩ :=
  run_line h verbose s d log

end Program

end TableSketch
