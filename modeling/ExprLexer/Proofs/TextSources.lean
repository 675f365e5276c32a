import ExprLexer.Proofs.FirstTokens
import ExprLexer.Proofs.SavedSettings

/-!
The tokens of a text are printed alike, wherever the text comes from.

* `OutputOptions.Around`: flags written around an input, in any order, each in one of its ways;
* `readWhole_text`, `readWhole_file`: **what is read of a text between flags, and of the name of a file**;
* `exists_parse_tokens`: what the arguments of `tokens` ask for;
* `run_of_input`: a run that prints the tokens of its input;
* `Shown`: what is shown of a text, and `shown_outcomeOf`: **the first tokens, or the first fault**;
* `run_sources_agree`: **a text in the arguments, in a file and on the standard input give the same
  outcome**, which is what is shown of that text.
-/

namespace ExprLexer

open Grammar

namespace CommandLine

/-! ### Flags around an input -/

/-- The option for the form of the tokens. -/
def formatOption : OptionForm := ⟨.format, "format", some 'F', true⟩

/-- The option for positions. -/
def positionsOption : OptionForm := ⟨.positions, "positions", some 'p', false⟩

/-- The option for a text in the arguments. -/
def textOption : OptionForm := ⟨.expr, "expr", some 'e', true⟩

/-- The flags that ask for tokens to be printed so. -/
def OutputOptions.row (output : OutputOptions) : List (OptionForm × String) :=
  (output.format.map fun format => (formatOption, format.name)).toList
    ++ if output.positions then [(positionsOption, "")] else []

/-- Arguments in front of an input and behind it that are just these flags, in any order. -/
def OutputOptions.Around (output : OutputOptions) (front behind : List String) : Prop :=
  ∃ before after, (before ++ after).Perm output.row ∧ OptionRow before front ∧ OptionRow after behind

/-- What is entered of flags, and of a text. -/
def entriesOf (output : OutputOptions) (text : Option String) : List (OptionName × String) :=
  text.toList.map (.expr, ·) ++ output.row.map entryOf

/-- Each of the options that say what to look at and how to print it can be given. -/
theorem offers_of_mem {form : OptionForm} (member : form ∈ inspectionOptions) :
    tokensLevel.Offers form := by
  simp only [inspectionOptions, List.mem_cons, List.not_mem_nil, or_false] at member
  rcases member with rfl | rfl | rfl
  all_goals
    exact ⟨rfl, rfl, fun c same => Option.some.inj same ▸ ⟨rfl, by decide⟩, by decide,
      List.all_eq_true.mp rfl, ⟨nofun, nofun⟩⟩

/-- An option of `tokens` with a value that it accepts. -/
def Fits (option : OptionForm × String) : Prop :=
  tokensLevel.Offers option.1 ∧ tokensLevel.accepts option.1.name option.2 = true

variable {output : OutputOptions} {front behind : List String} {text name : String}

theorem fits_row : ∀ option ∈ output.row, Fits option := by
  obtain ⟨format, positions⟩ := output
  intro option member
  rcases List.mem_append.mp member with chosen | flagged
  · obtain ⟨form, -, rfl⟩ := Option.map_eq_some_iff.mp (Option.mem_toList.mp chosen)
    refine ⟨offers_of_mem (.tail _ (.head _)), ?_⟩
    show (OutputFormat.ofName? form.name).isSome = true
    rw [OutputFormat.ofName?_name]
    rfl
  · split at flagged
    · obtain rfl := List.mem_singleton.mp flagged
      exact ⟨offers_of_mem (.tail _ (.tail _ (.head _))), rfl⟩
    · cases flagged

/-- Each option of some flags fits, and so it does on either side of an input. -/
theorem fits_of_perm {before after : List (OptionForm × String)}
    (same : (before ++ after).Perm output.row) :
    (∀ option ∈ before, Fits option) ∧ ∀ option ∈ after, Fits option :=
  List.forall_mem_append.mp fun option member => fits_row option (same.mem_iff.mp member)

theorem distinct_entriesOf (output : OutputOptions) (text : Option String) :
    ((entriesOf output text).map (·.1)).Nodup := by
  obtain ⟨format, positions⟩ := output
  cases text <;> cases format <;> cases positions <;>
    simp [entriesOf, OutputOptions.row, entryOf, formatOption, positionsOption]

theorem OptionRow.append {before after : List (OptionForm × String)} (first : OptionRow before front)
    (second : OptionRow after behind) : OptionRow (before ++ after) (front ++ behind) := by
  induction first with
  | nil => exact second
  | cons gives later ih =>
    rw [List.append_assoc]
    exact .cons gives ih

/-- Any choice of flags can be written, in long forms and in front of the input. -/
theorem OutputOptions.around_long (output : OutputOptions) :
    output.Around
      ((output.format.map fun format => ["--format", format.name]).getD []
        ++ if output.positions then ["--positions"] else [])
      [] := by
  refine ⟨output.row, [], by rw [List.append_nil], OptionRow.append ?_ ?_, .nil⟩
  · cases output.format with
    | none => exact .nil
    | some format =>
      have plain : Level.looksLikeOption format.name = false := by cases format <;> rfl
      exact .cons (.longApart rfl plain) .nil
  · cases output.positions with
    | false => exact .nil
    | true => exact .cons (.long rfl) .nil

/-! ### What is read -/

/-- What is read of a text between flags. -/
theorem readWhole_text (around : output.Around front behind) (text : String) :
    ∃ given, tokensLevel.readWhole {} (front ++ ("--expr=" ++ text) :: behind) = .ok given
      ∧ given.operands = [] ∧ given.options.Perm (entriesOf output (some text)) := by
  obtain ⟨before, after, same, written, written'⟩ := around
  have row : OptionRow (before ++ (textOption, text) :: after)
      (front ++ ("--expr=" ++ text) :: behind) :=
    written.append (.cons (.longAttached rfl) written')
  have options : (Given.enterRow {} (before ++ (textOption, text) :: after)).options.Perm
      (entriesOf output (some text)) := by
    rw [Given.enterRow, List.append_nil]
    refine (List.reverse_perm _).trans ?_
    have moved : (before ++ (textOption, text) :: after).Perm ((textOption, text) :: output.row) :=
      List.perm_middle.trans (same.cons _)
    exact moved.map entryOf
  have fits : ∀ option ∈ before ++ (textOption, text) :: after, Fits option := by
    obtain ⟨fitsBefore, fitsAfter⟩ := fits_of_perm same
    have fitsText : Fits (textOption, text) := ⟨offers_of_mem (.head _), rfl⟩
    exact List.forall_mem_append.mpr ⟨fitsBefore, List.forall_mem_cons.mpr ⟨fitsText, fitsAfter⟩⟩
  have distinct := (options.map (·.1)).nodup_iff.mpr (distinct_entriesOf output (some text))
  exact ⟨_, (Level.leads_row row rfl fits distinct).readWhole, rfl, options⟩

/-- What is read of the name of a file between flags. -/
theorem readWhole_file (around : output.Around front behind) (named : name.isEmpty = false)
    (plain : Level.looksLikeOption name = false) :
    ∃ given, tokensLevel.readWhole {} (front ++ name :: behind) = .ok given
      ∧ given.operands = [name] ∧ given.options.Perm (entriesOf output none) := by
  obtain ⟨before, after, same, written, written'⟩ := around
  let first := Given.enterRow {} before
  let second : Given := { first with operands := first.operands ++ [name] }
  have options : (second.enterRow after).options.Perm (entriesOf output none) := by
    show ((after.map entryOf).reverse ++ ((before.map entryOf).reverse ++ [])).Perm _
    rw [List.append_nil, ← List.reverse_append, ← List.map_append]
    exact (List.reverse_perm _).trans (same.map entryOf)
  have distinct : ((second.enterRow after).options.map (·.1)).Nodup :=
    (options.map (·.1)).nodup_iff.mpr (distinct_entriesOf output none)
  have distinctFirst : (first.options.map (·.1)).Nodup := by
    refine distinct.sublist (List.Sublist.map _ ?_)
    exact List.sublist_append_right _ _
  obtain ⟨fitsBefore, fitsAfter⟩ := fits_of_perm same
  have leads : tokensLevel.Leads front {} first :=
    Level.leads_row written rfl fitsBefore distinctFirst
  have operand : tokensLevel.Leads [name] first second :=
    Level.leads_operand rfl rfl plain Nat.zero_lt_one (by
      show (!name.isEmpty) = true
      rw [named]
      rfl)
  have leads' : tokensLevel.Leads behind second (second.enterRow after) :=
    Level.leads_row written' rfl fitsAfter distinct
  exact ⟨_, (leads.trans (operand.trans leads')).readWhole, rfl, options⟩

/-! ### What is asked for -/

variable {environment : Environment} {given : Given}

/-- What flags and a text come to, in whichever order they were entered. -/
theorem given_of_perm {text : Option String} (options : given.options.Perm (entriesOf output text)) :
    outputOptions given = output ∧ given.value? .expr = text ∧ given.value? .config = none := by
  have found (name : OptionName) : given.options.lookup name = (entriesOf output text).lookup name :=
    lookup_of_perm options ((options.map (·.1)).nodup_iff.mpr (distinct_entriesOf output text)) name
  rw [outputOptions, Given.value?, Given.value?, Given.value?, Given.has, found, found, found, found]
  obtain ⟨format, positions⟩ := output
  cases format with
  | none => cases text <;> cases positions <;> exact ⟨rfl, rfl, rfl⟩
  | some format =>
    have known := OutputFormat.ofName?_name format
    cases text <;> cases positions <;> exact ⟨congrArg (OutputOptions.mk · _) known, rfl, rfl⟩

/-- A variable that is missing or a truth value makes sense, whatever options are given. -/
theorem isUsable_of_ungiven (usable : environment.isUsable {} = true) (given : Given) :
    environment.isUsable given = true := by
  unfold Environment.isUsable at usable ⊢
  simp only [Bool.and_eq_true] at usable ⊢
  obtain ⟨⟨verbose, config⟩, noColor⟩ := usable
  have alone (name : OptionName) : Given.has {} name = false := rfl
  rw [alone, Bool.false_or] at verbose config noColor
  rw [verbose, config, noColor]
  simp

/-- **What the arguments of `tokens` ask for.** -/
theorem exists_parse_tokens {arguments : List String} {command : Command}
    (usable : environment.isUsable {} = true)
    (reads : tokensLevel.readWhole {} arguments = .ok given)
    (unnamed : given.value? .config = none) (asks : tokensCommand given = .ok command) :
    ∃ invocation, Invocation.parse environment ("tokens" :: arguments) = .ok invocation
      ∧ invocation.config = environment.config ∧ invocation.command = command := by
  obtain ⟨⟨read, rest⟩, reads, settles⟩ := exists_of_bind_ok reads
  have finishes : tokensLevel.finish environment read = .ok given := by
    show (tokensLevel.settle read).bind _ = _
    rw [settles]
    exact if_pos (isUsable_of_ungiven usable given)
  have before : programLevel.finish environment {} = .ok {} := if_pos usable
  refine ⟨⟨flag {} given .verbose environment.verbose, flag {} given .noColor environment.noColor,
    environment.config, command⟩, ?_, rfl, rfl⟩
  show parseCommand environment {} "tokens" tokensLevel tokensCommand arguments = _
  unfold parseCommand
  rw [reads]
  show (Except.mapError _ (tokensLevel.finish environment read)).bind _ = _
  rw [finishes]
  show (Except.mapError _ (tokensCommand given)).bind _ = _
  rw [asks]
  show (Except.mapError _ (programLevel.finish environment {})).bind _ = _
  rw [before]
  show Except.ok (Invocation.mk _ _ (given.value? .config <|> _) _) = _
  rw [unnamed]
  rfl

/-- A text between flags is asked for. -/
theorem exists_parse_text (usable : environment.isUsable {} = true)
    (around : output.Around front behind) (text : String) :
    ∃ invocation,
      Invocation.parse environment ("tokens" :: front ++ ("--expr=" ++ text) :: behind)
          = .ok invocation
        ∧ invocation.config = environment.config
        ∧ invocation.command = .tokens (.expression text) output := by
  obtain ⟨given, reads, operands, options⟩ := readWhole_text around text
  obtain ⟨shown, asked, unnamed⟩ := given_of_perm options
  refine exists_parse_tokens usable reads unnamed ?_
  rw [tokensCommand, asked, operands, shown]

/-- A file between flags is asked for, or the standard input. -/
theorem exists_parse_file (usable : environment.isUsable {} = true)
    (around : output.Around front behind) (named : name.isEmpty = false)
    (plain : Level.looksLikeOption name = false) :
    ∃ invocation, Invocation.parse environment ("tokens" :: front ++ name :: behind) = .ok invocation
      ∧ invocation.config = environment.config
      ∧ invocation.command = .tokens (.file name) output := by
  obtain ⟨given, reads, operands, options⟩ := readWhole_file around named plain
  obtain ⟨shown, asked, unnamed⟩ := given_of_perm options
  refine exists_parse_tokens usable reads unnamed ?_
  rw [tokensCommand, asked, operands, shown]

/-! ### What is shown -/

variable {host : Host} {settings : Settings}

/-- What a run shows that prints the first tokens of a text. -/
def outcomeOf (settings : Settings) (output : OutputOptions) (text : String) : Outcome :=
  finished ((tokensOutput (rendering output settings) settings.maxTokens text).map (· ++ "\n"))

/-- A run that prints the tokens of its input. -/
theorem run_of_input {arguments : List String} {input : Input} {config : Option String}
    (parsed : ∃ invocation, Invocation.parse environment arguments = .ok invocation
      ∧ invocation.config = config ∧ invocation.command = .tokens input output)
    (chosen : Settings.choice host.files.at? environment.homes config = .ok settings)
    (gives : input.textOn host = .ok text) :
    (run environment arguments : StateM Host Outcome).run host
      = (outcomeOf settings output text, host) := by
  obtain ⟨invocation, parsed, rfl, command⟩ := parsed
  rw [run_of_choice parsed chosen, command, Host.run_map, run_execute_tokens, gives]
  rfl

/-- What is shown of the first tokens of a text: these are printed with a newline behind them, unless a
fault is among them, which is explained. -/
structure Shown (rendering : Rendering) (limit : Nat) (text : String) (outcome : Outcome) :
    Prop where
  success_iff : outcome.exit.number = 0 ↔ ∃ tokens, FirstTokens limit [] text.toList tokens
  printed : outcome.exit.number = 0 → outcome.error = ""
    ∧ ∃ tokens, FirstTokens limit [] text.toList tokens ∧ tokens ≠ []
      ∧ outcome.output = rendering.render tokens ++ "\n"
  explained : outcome.exit.number ≠ 0 → outcome.exit.number = 1 ∧ outcome.output = ""
    ∧ ∃ error, FirstFault [] text.toList error ∧ outcome.error = (error.explain text).render ++ "\n"

/-- **The first tokens are shown, or the first fault.** -/
theorem shown_outcomeOf (settings : Settings) (allows : 1 ≤ settings.maxTokens) (output : OutputOptions)
    (text : String) :
    Shown (rendering output settings) settings.maxTokens text (outcomeOf settings output text) := by
  rw [outcomeOf, tokensOutput]
  cases collected : collectTokens text settings.maxTokens with
  | ok tokens =>
    have first := collectTokens_eq_ok_iff.mp collected
    exact ⟨iff_of_true rfl ⟨tokens, first⟩, fun _ => ⟨rfl, tokens, first, first.ne_nil allows, rfl⟩,
      fun fails => absurd rfl fails⟩
  | error failure =>
    obtain ⟨error, fault, rfl⟩ := exists_firstFault_of_collectTokens collected
    have noTokens : ¬ ∃ tokens, FirstTokens settings.maxTokens [] text.toList tokens := by
      rintro ⟨tokens, first⟩
      cases collected.symm.trans (collectTokens_eq_ok_iff.mpr first)
    exact ⟨iff_of_false nofun noTokens, nofun, fun _ => ⟨rfl, rfl, error, fault, rfl⟩⟩

/-! ### Three sources -/

/-- A variable that stands in for a flag makes sense if it is missing or a truth value. -/
theorem isTruth_of_mem {value : Option String} (truth : value ∈ [none, some "true", some "false"]) :
    Environment.isTruth value = true := by
  simp only [List.mem_cons, List.not_mem_nil, or_false] at truth
  rcases truth with rfl | rfl | rfl <;> rfl

/-- Variables make sense with which settings are chosen: no file of settings has an empty name. -/
theorem isUsable_of_choice (verbose : environment.verbose ∈ [none, some "true", some "false"])
    (noColor : environment.noColor ∈ [none, some "true", some "false"])
    (chosen : Settings.choice host.files.at? environment.homes environment.config = .ok settings) :
    environment.isUsable {} = true := by
  have config : environment.config.all (!·.isEmpty) = true := by
    cases named : environment.config with
    | none => rfl
    | some name =>
      rw [named, Settings.choice] at chosen
      by_cases nothing : name = ""
      · subst nothing
        cases chosen
      · simpa using nothing
  rw [Environment.isUsable, isTruth_of_mem verbose, isTruth_of_mem noColor, config]
  simp

theorem isEmpty_of_read {content : ByteArray} (holds : host.files.read (Path.ofString name) = .ok content) :
    name.isEmpty = false := by
  by_cases nothing : name = ""
  · subst nothing
    cases holds
  · simpa using nothing

theorem looksLikeOption_of_head? (plain : name.toList.head? ≠ some '-') :
    Level.looksLikeOption name = false := by
  unfold Level.looksLikeOption
  split
  · next c chars spelled =>
    rw [spelled] at plain
    exact absurd rfl plain
  · rfl

theorem decode_toUTF8 (text : String) : decode text.toUTF8 = .ok text := by
  rw [decode, fromUTF8?_toUTF8]

/-- **A text gives the same outcome wherever it comes from**: in the arguments, in a file, or on the
standard input.  Shown are its first tokens, in the form and with the positions that the flags ask for, or
else the settings; or, if a fault is among them, the first fault of the text. -/
theorem run_sources_agree {environment : Environment} {host : Host} {settings : Settings}
    {text name : String} (verbose : environment.verbose ∈ [none, some "true", some "false"])
    (noColor : environment.noColor ∈ [none, some "true", some "false"])
    (loads : (Settings.select environment.homes environment.config : StateM Host _).run host
      = (.ok settings, host))
    (holds : host.files.read (Path.ofString name) = .ok text.toUTF8)
    (plain : name.toList.head? ≠ some '-') (output : OutputOptions) :
    ∃ outcome,
      (∀ front behind, output.Around front behind →
        (run environment ("tokens" :: front ++ ("--expr=" ++ text) :: behind) : StateM Host _).run host
            = (outcome, host)
          ∧ (run environment ("tokens" :: front ++ name :: behind) : StateM Host _).run host
            = (outcome, host)
          ∧ (run environment ("tokens" :: front ++ "-" :: behind) : StateM Host _).run
              { host with input := text.toUTF8 }
            = (outcome, { host with input := text.toUTF8 }))
      ∧ Shown ⟨output.format.getD settings.format, output.positions || settings.positions⟩
          settings.maxTokens text outcome := by
  rw [Settings.run_select] at loads
  have chosen : Settings.choice host.files.at? environment.homes environment.config = .ok settings :=
    (Prod.mk.inj loads).1
  have usable := isUsable_of_choice verbose noColor chosen
  have noDash : name ≠ "-" := by
    rintro rfl
    exact plain rfl
  refine ⟨outcomeOf settings output text, fun front behind around => ⟨?_, ?_, ?_⟩,
    shown_outcomeOf settings (Settings.allows_of_choice chosen) output text⟩
  · exact run_of_input (exists_parse_text usable around text) chosen rfl
  · refine run_of_input (exists_parse_file usable around (isEmpty_of_read holds)
      (looksLikeOption_of_head? plain)) chosen ?_
    rw [Input.textOn, if_neg noDash, holds, Except.bind, decode_toUTF8]
    rfl
  · refine run_of_input (exists_parse_file usable around rfl rfl) chosen ?_
    rw [Input.textOn, if_pos rfl, decode_toUTF8]
    rfl

/-- A file with four tokens and then a string without its closing quote, and settings that allow four
tokens. -/
def unclosed : Host where
  files := {
    entries := [
      (["work"], .directory),
      (["work", "calxt.toml"], .file "positions = true\nmax_tokens = 4\n".toUTF8),
      (["work", "in.calx"], .file "-x=1 'open".toUTF8)]
    workingDirectory := ["work"] }
  input := .empty

/-- The fault behind the last token allowed is not met, and the dash in front is no option. -/
theorem run_sources_agree_unclosed :
    ∃ outcome,
      (run .bare ["tokens", "-p", "--expr=-x=1 'open", "--format", "json"] : StateM Host _).run unclosed
          = (outcome, unclosed)
        ∧ (run .bare ["tokens", "-p", "in.calx", "--format", "json"] : StateM Host _).run unclosed
          = (outcome, unclosed)
        ∧ (run .bare ["tokens", "-p", "-", "--format", "json"] : StateM Host _).run
            { unclosed with input := "-x=1 'open".toUTF8 }
          = (outcome, { unclosed with input := "-x=1 'open".toUTF8 })
        ∧ outcome.exit.number = 0 := by
  have chosen : Settings.choice unclosed.files.at? ⟨none, none⟩ none = .ok ⟨.plain, true, 4⟩ := by
    decide +kernel
  have around : OutputOptions.Around ⟨some .json, true⟩ ["-p"] ["--format", "json"] :=
    ⟨[(positionsOption, "")], [(formatOption, "json")], List.Perm.swap _ _ _,
      .cons (.short rfl rfl) .nil, .cons (.longApart rfl rfl) .nil⟩
  have collected : collectTokens "-x=1 'open" 4
      = .ok [⟨.operator .subtract, ⟨1, 1, 1⟩⟩, ⟨.identifier "x", ⟨2, 1, 2⟩⟩,
          ⟨.operator .assign, ⟨3, 1, 3⟩⟩, ⟨.numberLiteral "1", ⟨4, 1, 4⟩⟩] := by
    decide +kernel
  have loads : (Settings.select ⟨none, none⟩ none : StateM Host _).run unclosed
      = (.ok ⟨.plain, true, 4⟩, unclosed) := by
    rw [Settings.run_select, chosen]
  obtain ⟨outcome, agree, shown⟩ := @run_sources_agree .bare unclosed ⟨.plain, true, 4⟩ "-x=1 'open"
    "in.calx" (by decide) (by decide) loads rfl (by decide) ⟨some .json, true⟩
  obtain ⟨inline, file, standard⟩ := agree _ _ around
  exact ⟨outcome, inline, file, standard,
    shown.success_iff.mpr ⟨_, collectTokens_eq_ok_iff.mp collected⟩⟩

end CommandLine

end ExprLexer
