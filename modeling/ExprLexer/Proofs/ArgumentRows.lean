import ExprLexer.CommandLine.Arguments
import Mathlib.Data.List.TakeWhile

/-!
Rows of arguments: what comes of options and operands, however they are written.

* `Level.readWhole`: reads arguments to the end of a level, and checks the last option too;
  `Level.readWhole_congr`: **what is left unchecked is checked before anything else is entered**;
* `Level.Leads`: arguments that take what was given before them to what is given with them, whatever
  follows, and `Level.Leads.trans`: such arguments join up;
* `OptionForm.Gives`: the ways to give an option, and `Level.Offers.leads`: **an option is entered in each
  of them**;
* `Level.leads_operand`: an operand is entered unless it looks like an option;
* `Level.leads_row`: **options of different names are entered one after the other**;
* `lookup_of_perm`: their order does not count.

A value that stands apart from its option is checked late, when something else is entered.  So arguments
are followed to the end of their level, where nothing is left unchecked.
-/

namespace ExprLexer.CommandLine

/-- The ways to give an option: by its long form or its short one; with its value attached, behind an
equals sign or not, or with its value in an argument of its own. -/
inductive OptionForm.Gives (form : OptionForm) : String → List String → Prop
  | long (flag : form.takesValue = false) : form.Gives "" ["--" ++ form.long]
  | short {c : Char} (flag : form.takesValue = false) (short : form.short = some c) :
      form.Gives "" [String.ofList ['-', c]]
  | longAttached {value : String} (valued : form.takesValue = true) :
      form.Gives value ["--" ++ form.long ++ "=" ++ value]
  | longApart {value : String} (valued : form.takesValue = true)
      (plain : Level.looksLikeOption value = false) : form.Gives value ["--" ++ form.long, value]
  | shortEquals {c : Char} {value : String} (valued : form.takesValue = true)
      (short : form.short = some c) :
      form.Gives value [String.ofList ('-' :: c :: '=' :: value.toList)]
  | shortAttached {c d : Char} {more : List Char} (valued : form.takesValue = true)
      (short : form.short = some c) (solid : d ≠ '=') :
      form.Gives (String.ofList (d :: more)) [String.ofList ('-' :: c :: d :: more)]
  | shortApart {c : Char} {value : String} (valued : form.takesValue = true)
      (short : form.short = some c) (plain : Level.looksLikeOption value = false) :
      form.Gives value [String.ofList ['-', c], value]

namespace Level

variable {level : Level} {given later : Given} {argument value : String} {rest : List String}

/-- Reads arguments to the end of a level, and checks the option left unchecked there. -/
def readWhole (level : Level) (given : Given) (arguments : List String) : Except Stop Given :=
  (level.read given arguments).bind fun read => level.settle read.1

/-! ### Options left unchecked -/

theorem settle_of_checked (checked : given.unchecked = none) : level.settle given = .ok given := by
  rw [settle, checked]

/-- An option left unchecked is entered later. -/
theorem settle_unchecked (checked : given.unchecked = none) (name : OptionName) (value : String) :
    level.settle { given with unchecked := some (name, value) } = level.enter given name value := by
  obtain ⟨options, operands, unchecked⟩ := given
  obtain rfl : unchecked = none := checked
  rfl

section Alike

variable {first second : Given} (same : level.settle first = level.settle second)
include same

theorem enterFlag_congr (name : OptionName) :
    level.enterFlag first name = level.enterFlag second name := by
  rw [enterFlag, enterFlag, same]

theorem enterValue_congr (name : OptionName) (value : String) :
    level.enterValue first name value = level.enterValue second name value := by
  rw [enterValue, enterValue, same]

theorem enterOperand_congr (operand : String) :
    level.enterOperand first operand = level.enterOperand second operand := by
  rw [enterOperand, enterOperand, same]

theorem readLong_congr (chars : List Char) :
    level.readLong first chars = level.readLong second chars := by
  simp only [readLong, same, enterFlag_congr same, enterValue_congr same]

theorem readShort_congr (c : Char) (chars : List Char) :
    level.readShort first (c :: chars) = level.readShort second (c :: chars) := by
  simp only [readShort, same, enterFlag_congr same, enterValue_congr same]

theorem readOption_congr (option : looksLikeOption argument = true) :
    level.readOption first argument = level.readOption second argument := by
  unfold looksLikeOption at option
  unfold readOption
  split at option
  · next c chars spelled =>
    rw [spelled]
    split
    · exact readLong_congr same _
    · exact readShort_congr same c chars
  · cases option

/-- **What is left unchecked is checked before anything else is entered.** -/
theorem readWhole_congr (arguments : List String) :
    level.readWhole first arguments = level.readWhole second arguments := by
  cases arguments with
  | nil => exact same
  | cons argument rest =>
    unfold readWhole
    rw [read.eq_def level first, read.eq_def level second]
    dsimp only
    split
    · exact same
    · split
      · cases rest with
        | nil => exact same
        | cons operand rest =>
          rw [List.foldlM_cons, List.foldlM_cons, enterOperand_congr same]
      · split
        · next option => rw [readOption_congr same option]
        · rw [enterOperand_congr same]

end Alike

/-! ### Arguments that are read -/

/-- Arguments that take what was given before them to what is given with them, whatever follows. -/
structure Leads (level : Level) (arguments : List String) (given later : Given) : Prop where
  reads : ∀ rest, level.readWhole given (arguments ++ rest) = level.readWhole later rest
  /-- Nothing is left unchecked. -/
  checked : later.unchecked = none

namespace Leads

variable {front behind : List String} {between : Given}

theorem nil (checked : given.unchecked = none) : level.Leads [] given given :=
  ⟨fun _ => rfl, checked⟩

theorem trans (first : level.Leads front given between) (second : level.Leads behind between later) :
    level.Leads (front ++ behind) given later where
  reads rest := by rw [List.append_assoc, first.reads, second.reads]
  checked := second.checked

/-- Arguments that are all there is. -/
theorem readWhole (leads : level.Leads front given later) : level.readWhole given front = .ok later := by
  have whole := leads.reads []
  rw [List.append_nil] at whole
  rw [whole]
  exact settle_of_checked leads.checked

end Leads

/-- An argument that is an option by itself. -/
theorem readWhole_option (last : level.commands = []) (option : looksLikeOption argument = true)
    (dashed : argument ≠ "--") (reads : level.readOption given argument = .ok (later, none)) :
    level.readWhole given (argument :: rest) = level.readWhole later rest := by
  unfold readWhole
  rw [read.eq_def]
  dsimp only
  rw [last, if_neg (by simp), if_neg dashed, if_pos option, reads]

/-- An option is read together with the argument behind it, which is checked later. -/
theorem read_valued (next : Given) {name : OptionName}
    (noCommand : level.commands.contains argument = false) (option : looksLikeOption argument = true)
    (dashed : argument ≠ "--") (reads : level.readOption given argument = .ok (next, some name)) :
    level.read given (argument :: value :: rest)
      = if looksLikeOption value then .error .misuse
        else level.read { next with unchecked := some (name, value) } rest := by
  rw [read.eq_def]
  dsimp only
  rw [noCommand, if_neg nofun, if_neg dashed, if_pos option, reads]

/-! ### Options, however they are given -/

theorem toList_attached (long value : String) :
    ("--" ++ long ++ "=" ++ value).toList = '-' :: '-' :: (long.toList ++ '=' :: value.toList) := by
  simp

/-- An option that can be given at a level without commands, and does not end the reading. -/
structure Offers (level : Level) (form : OptionForm) : Prop where
  last : level.commands = []
  long : level.options.find? (·.long == form.long) = some form
  short : ∀ c, form.short = some c → level.options.find? (·.short == some c) = some form ∧ c ≠ '-'
  named : form.long ≠ ""
  solid : ∀ c ∈ form.long.toList, (c != '=') = true
  goesOn : form.name ≠ .help ∧ form.name ≠ .version

namespace Offers

variable {form : OptionForm} (offers : level.Offers form)
include offers

theorem enterFlag (checked : given.unchecked = none) :
    level.enterFlag given form.name = level.enter given form.name "" := by
  rw [Level.enterFlag, settle_of_checked checked]
  obtain ⟨noHelp, noVersion⟩ := offers.goesOn
  generalize form.name = name at noHelp noVersion
  cases name with
  | help => exact absurd rfl noHelp
  | version => exact absurd rfl noVersion
  | _ => rfl

/-- The long form ends at an equals sign, or with the argument. -/
theorem readOption_long (checked : given.unchecked = none) :
    level.readOption given ("--" ++ form.long)
      = if form.takesValue then .ok (given, some form.name)
        else (level.enter given form.name "").map (·, none) := by
  have spelled : ("--" ++ form.long).toList = '-' :: '-' :: form.long.toList := String.toList_append
  have named : form.long.toList.takeWhile (· != '=') = form.long.toList :=
    List.takeWhile_eq_self_iff.mpr offers.solid
  have nothing : form.long.toList.dropWhile (· != '=') = [] := List.dropWhile_eq_nil_iff.mpr offers.solid
  rw [readOption, spelled]
  show level.readLong given form.long.toList = _
  rw [readLong, named, nothing, String.ofList_toList, offers.long]
  dsimp only
  rw [offers.enterFlag checked, settle_of_checked checked]
  cases form.takesValue with
  | true => rfl
  | false => cases level.enter given form.name "" <;> rfl

theorem readOption_attached (checked : given.unchecked = none) (valued : form.takesValue = true) :
    level.readOption given ("--" ++ form.long ++ "=" ++ value)
      = (level.enter given form.name value).map (·, none) := by
  have named : (form.long.toList ++ '=' :: value.toList).takeWhile (· != '=') = form.long.toList := by
    rw [List.takeWhile_append_of_pos offers.solid]
    simp
  have attached : (form.long.toList ++ '=' :: value.toList).dropWhile (· != '=')
      = '=' :: value.toList := by
    rw [List.dropWhile_append_of_pos offers.solid]
    rfl
  rw [readOption, toList_attached]
  show level.readLong given (form.long.toList ++ '=' :: value.toList) = _
  rw [readLong, named, attached, String.ofList_toList, offers.long]
  dsimp only
  rw [if_pos valued, String.ofList_toList, enterValue, settle_of_checked checked]
  show (level.enter given form.name value >>= fun entered => pure (entered, none)) = _
  cases level.enter given form.name value <;> rfl

/-- Behind a short form others may follow, or its value. -/
theorem readOption_joined {c : Char} {chars : List Char} (short : form.short = some c) :
    level.readOption given (String.ofList ('-' :: c :: chars)) = level.readShort given (c :: chars) := by
  rw [readOption, String.toList_ofList]
  split
  · next more same => exact absurd (List.cons.inj (List.cons.inj same).2).1 (offers.short c short).2
  · rfl

theorem readOption_short {c : Char} (checked : given.unchecked = none)
    (short : form.short = some c) :
    level.readOption given (String.ofList ['-', c])
      = if form.takesValue then .ok (given, some form.name)
        else (level.enter given form.name "").map (·, none) := by
  rw [offers.readOption_joined short, readShort, (offers.short c short).1]
  dsimp only
  rw [offers.enterFlag checked, settle_of_checked checked]
  cases form.takesValue with
  | true => rfl
  | false => cases level.enter given form.name "" <;> rfl

theorem readOption_shortAttached {c d : Char} {more : List Char} (checked : given.unchecked = none)
    (valued : form.takesValue = true) (short : form.short = some c) :
    level.readOption given (String.ofList ('-' :: c :: d :: more))
      = (level.enter given form.name (String.ofList (attached (d :: more)))).map (·, none) := by
  rw [offers.readOption_joined short, readShort, (offers.short c short).1]
  dsimp only
  rw [if_pos valued, enterValue, settle_of_checked checked]
  show (level.enter given form.name _ >>= fun entered => pure (entered, none)) = _
  cases level.enter given form.name (String.ofList (attached (d :: more))) <;> rfl

end Offers

theorem looksLikeOption_dashed {c : Char} {chars : List Char}
    (spelled : argument.toList = '-' :: c :: chars) : looksLikeOption argument = true := by
  rw [looksLikeOption, spelled]
  rfl

theorem ne_dashes_of_short {c : Char} {chars : List Char} (noDash : c ≠ '-') :
    String.ofList ('-' :: c :: chars) ≠ "--" := by
  intro same
  have spelled : '-' :: c :: chars = ['-', '-'] := String.ofList_injective same
  exact noDash (List.cons.inj (List.cons.inj spelled).2).1

theorem unchecked_enter {name : OptionName} (entered : level.enter given name value = .ok later) :
    later.unchecked = given.unchecked := by
  unfold enter at entered
  split at entered
  · cases entered
  · obtain rfl := Except.ok.inj entered
    rfl

/-- A value in an argument of its own is entered as an attached one is. -/
theorem readWhole_apart {name : OptionName} (last : level.commands = [])
    (option : looksLikeOption argument = true) (dashed : argument ≠ "--")
    (plain : looksLikeOption value = false) (checked : given.unchecked = none)
    (reads : level.readOption given argument = .ok (given, some name))
    (entered : level.enter given name value = .ok later) :
    level.readWhole given (argument :: value :: rest) = level.readWhole later rest := by
  have whole : level.readWhole given (argument :: value :: rest)
      = level.readWhole { given with unchecked := some (name, value) } rest := by
    unfold readWhole
    rw [read_valued given (by rw [last]; rfl) option dashed reads, plain, if_neg Bool.false_ne_true]
  rw [whole]
  refine readWhole_congr ?_ rest
  rw [settle_unchecked checked, entered,
    settle_of_checked ((unchecked_enter entered).trans checked)]

/-- **An option is entered however it is given.** -/
theorem Offers.leads {form : OptionForm} {arguments : List String} (offers : level.Offers form)
    (checked : given.unchecked = none) (entered : level.enter given form.name value = .ok later)
    (gives : form.Gives value arguments) : level.Leads arguments given later := by
  refine ⟨fun rest => ?_, (unchecked_enter entered).trans checked⟩
  have long : looksLikeOption ("--" ++ form.long) = true :=
    looksLikeOption_dashed String.toList_append
  have named : "--" ++ form.long ≠ "--" := by simpa using offers.named
  cases gives with
  | long flag =>
    refine readWhole_option offers.last long named ?_
    rw [offers.readOption_long checked, flag, if_neg Bool.false_ne_true, entered]
    rfl
  | @short c flag short =>
    refine readWhole_option offers.last (looksLikeOption_dashed String.toList_ofList)
      (ne_dashes_of_short (offers.short c short).2) ?_
    rw [offers.readOption_short checked short, flag, if_neg Bool.false_ne_true, entered]
    rfl
  | longAttached valued =>
    have spelled := toList_attached form.long value
    have named : "--" ++ form.long ++ "=" ++ value ≠ "--" := by
      intro same
      rw [same] at spelled
      simp at spelled
    refine readWhole_option offers.last (looksLikeOption_dashed spelled) named ?_
    rw [offers.readOption_attached checked valued, entered]
    rfl
  | longApart valued plain =>
    refine readWhole_apart offers.last long named plain checked ?_ entered
    rw [offers.readOption_long checked, if_pos valued]
  | @shortEquals c value valued short =>
    refine readWhole_option offers.last (looksLikeOption_dashed String.toList_ofList)
      (ne_dashes_of_short (offers.short c short).2) ?_
    rw [offers.readOption_shortAttached checked valued short, attached, String.ofList_toList, entered]
    rfl
  | @shortAttached c d more valued short solid =>
    refine readWhole_option offers.last (looksLikeOption_dashed String.toList_ofList)
      (ne_dashes_of_short (offers.short c short).2) ?_
    have same : attached (d :: more) = d :: more := by
      unfold attached
      split
      · next same => exact absurd (List.cons.inj same).1 solid
      · rfl
    rw [offers.readOption_shortAttached checked valued short, same, entered]
    rfl
  | @shortApart c value valued short plain =>
    refine readWhole_apart offers.last (looksLikeOption_dashed String.toList_ofList)
      (ne_dashes_of_short (offers.short c short).2) plain checked ?_ entered
    rw [offers.readOption_short checked short, if_pos valued]

/-- An operand is entered unless it looks like an option. -/
theorem leads_operand {operand : String} (last : level.commands = [])
    (checked : given.unchecked = none) (plain : looksLikeOption operand = false)
    (room : given.operands.length < level.operands) (accepted : level.acceptsOperand operand = true) :
    level.Leads [operand] given { given with operands := given.operands ++ [operand] } where
  checked := checked
  reads rest := by
    have dashed : operand ≠ "--" := by
      rintro rfl
      cases plain
    have entered : level.enterOperand given operand
        = .ok { given with operands := given.operands ++ [operand] } := by
      rw [enterOperand, settle_of_checked checked]
      exact if_pos (by rw [accepted, decide_eq_true room]; rfl)
    show level.readWhole given (operand :: rest) = _
    unfold readWhole
    rw [read.eq_def]
    dsimp only
    rw [last, if_neg (by simp), if_neg dashed, plain, if_neg Bool.false_ne_true, entered]

end Level

/-! ### Rows of options -/

/-- Options that are given one after the other. -/
inductive OptionRow : List (OptionForm × String) → List String → Prop
  | nil : OptionRow [] []
  | cons {form : OptionForm} {value : String} {row : List (OptionForm × String)}
      {front behind : List String} (gives : form.Gives value front) (later : OptionRow row behind) :
      OptionRow ((form, value) :: row) (front ++ behind)

/-- What is entered of an option. -/
def entryOf (option : OptionForm × String) : OptionName × String := (option.1.name, option.2)

/-- What is given once a row of options is entered. -/
def Given.enterRow (given : Given) (row : List (OptionForm × String)) : Given :=
  { given with options := (row.map entryOf).reverse ++ given.options }

namespace Level

variable {level : Level} {given : Given}

/-- An option that was not given is entered. -/
theorem enter_new {name : OptionName} {value : String} (fresh : name ∉ given.options.map (·.1))
    (accepted : level.accepts name value = true) :
    level.enter given name value = .ok { given with options := (name, value) :: given.options } := by
  have none : given.options.lookup name = none := by
    rw [List.lookup_eq_none_iff]
    intro option member
    rw [bne_iff_ne]
    rintro rfl
    exact fresh (List.mem_map_of_mem member)
  rw [enter, Given.has, none, accepted]
  rfl

/-- **Options of different names are entered one after the other.** -/
theorem leads_row {row : List (OptionForm × String)} {arguments : List String}
    (written : OptionRow row arguments) (checked : given.unchecked = none)
    (offers : ∀ option ∈ row, level.Offers option.1
      ∧ level.accepts option.1.name option.2 = true)
    (distinct : ((given.enterRow row).options.map (·.1)).Nodup) :
    level.Leads arguments given (given.enterRow row) := by
  induction written generalizing given with
  | nil => exact .nil checked
  | @cons form value row front behind gives later ih =>
    obtain ⟨⟨offered, accepted⟩, others⟩ := List.forall_mem_cons.mp offers
    -- entering the first option moves it from the row to what is given
    have moved : given.enterRow ((form, value) :: row)
        = Given.enterRow { given with options := (form.name, value) :: given.options } row := by
      simp [Given.enterRow, entryOf]
    rw [moved] at distinct ⊢
    have fresh : form.name ∉ given.options.map (·.1) := by
      rw [Given.enterRow, List.map_append] at distinct
      exact (List.nodup_cons.mp (List.nodup_append.mp distinct).2.1).1
    exact (offered.leads checked (enter_new fresh accepted) gives).trans
      (ih checked others distinct)

end Level

/-- The order of options does not count if their names differ. -/
theorem lookup_of_perm {options others : List (OptionName × String)} (same : options.Perm others)
    (distinct : (options.map (·.1)).Nodup) (name : OptionName) :
    options.lookup name = others.lookup name := by
  induction same with
  | nil => rfl
  | cons option same ih =>
    rw [List.lookup_cons, List.lookup_cons, ih (List.nodup_cons.mp distinct).2]
  | swap first second options =>
    have differ : second.1 ≠ first.1 := by
      intro equal
      exact (List.nodup_cons.mp distinct).1 (List.mem_cons.mpr (Or.inl equal))
    rw [List.lookup_cons, List.lookup_cons, List.lookup_cons, List.lookup_cons]
    by_cases here : name = first.1
    · rw [here, beq_self_eq_true, beq_false_of_ne differ.symm]
    · rw [beq_false_of_ne here]
  | trans first second ih ih' =>
    exact (ih distinct).trans (ih' ((first.map (·.1)).nodup_iff.mp distinct))

end ExprLexer.CommandLine
