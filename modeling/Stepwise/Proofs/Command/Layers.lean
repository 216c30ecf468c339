import Stepwise.Command.Session
import Stepwise.Proofs.Text.Cutting
import Stepwise.Proofs.Text.Numeral

/-!
# Settings in layers

The settings of a session come in layers: what the command line gives, then what the environment says, then the
defaults. The environment is read twice, once by the command line in place of options that are not given, and
once for the settings as a whole. The second reading cuts blanks off and ignores what it cannot read; the first
one does neither. So the layers are as they should be exactly if the values that stand in for options are read
alike both times: they are taken, and have no blanks around them.
-/

set_option autoImplicit false

namespace Stepwise

open Text (trimmed count?)

/-! ## Variables that stay -/

namespace EnvironmentFile

/-- A line of an environment file never takes the place of a variable that is already set. -/
theorem get?_extendBy {environment : Table String} {name value : String}
    (set : Table.get? environment name = some value) (lines : List (Option (List Char))) :
    Table.get? (extendBy environment lines) name = some value := by
  fun_induction extendBy environment lines with
  | case1 environment => exact set
  | case2 environment rest => exact set
  | case3 environment line rest unread => exact set
  | case4 environment line rest read ih => exact ih set
  | case5 environment line rest other text read ih =>
    apply ih
    split
    · exact set
    · rename_i absent
      have different : name ≠ other := by
        rintro rfl
        simp [Table.contains, set] at absent
      rw [Table.get?_put_of_ne environment text different, set]

/-- The environment file leaves the variables alone that are set. -/
theorem get?_extend {environment : Table String} {name value : String}
    (set : Table.get? environment name = some value) (text : String) :
    Table.get? (extend environment text) name = some value :=
  get?_extendBy set _

end EnvironmentFile

/-! ## Counts and blanks -/

namespace Text

/-- A count has no blanks around it, and is not empty. -/
theorem trim_of_count? {text : List Char} {n : Nat} (read : count? text = some n) :
    trim text = text ∧ text ≠ [] := by
  have solid : ∀ c ∈ text, isBlank c = false := by
    intro c member
    by_cases digit : c.isDigit = true
    · exact not_blank_of_isDigit digit
    · by_cases plus : c = '+'
      · rw [plus]
        decide
      · rw [count?_eq_none member (by simpa using digit) plus] at read
        cases read
  refine ⟨trim_eq_self (fun c begins => solid c (List.mem_of_mem_head? begins))
    fun c ends => solid c (List.mem_of_mem_getLast? ends), ?_⟩
  rintro rfl
  cases read

end Text

namespace Settings

/-- A variable without blanks around its value says what it is set to. -/
theorem said?_of_trimmed {environment : Table String} {name value : String}
    (set : Table.get? environment name = some value) (plain : trimmed value = value) (nonempty : value ≠ "") :
    said? environment name = some value := by
  rw [said?, set, Option.map_some, plain, Option.filter_some, if_pos]
  simpa using nonempty

/-- A variable that spells a count says that count. -/
theorem saidCount?_of_count? {environment : Table String} {name value : String} {n : Nat}
    (set : Table.get? environment name = some value) (read : count? value.toList = some n) :
    saidCount? environment name = some n := by
  obtain ⟨plain, nonempty⟩ := Text.trim_of_count? read
  have said : said? environment name = some value := by
    apply said?_of_trimmed set
    · rw [trimmed, plain, String.ofList_toList]
    · simpa using nonempty
  rw [saidCount?, said, Option.bind_some, read]

/-- A name for the progress file is found in the settings exactly if it has no blanks around it. -/
theorem progressFile_ofEnvironment_eq_iff {environment : Table String} {value : String}
    (set : Table.get? environment "PLAYBOOK_PROGRESS_FILE" = some value) (nonempty : value ≠ "") :
    (ofEnvironment environment).progressFile = value ↔ trimmed value = value := by
  have file : (ofEnvironment environment).progressFile =
      (said? environment "PLAYBOOK_PROGRESS_FILE").getD default.progressFile := rfl
  constructor
  · intro same
    rw [file, said?, set, Option.map_some] at same
    by_cases blank : trimmed value = ""
    · -- the name would be the default one, which is not blank
      rw [blank] at same
      subst same
      exact absurd blank (by decide)
    · rw [Option.filter_some, if_pos (by simpa using blank)] at same
      exact same
  · intro plain
    rw [file, said?_of_trimmed set plain nonempty]
    rfl

end Settings

/-! ## Options that the environment stands in for -/

/-- A value that the command line takes for an option. -/
def ValueOption.Takes : ValueOption → String → Prop
  | .progressFile, value => value ≠ ""
  | .checkpointEvery, value => (count? value.toList).isSome = true

namespace Invocation

/-- What the environment says in place of an option that was not given. -/
def supplied? (environment : Table String) (given : Invocation) (option : ValueOption) : Option String :=
  if given.sets option then none else Table.get? environment option.variableName

/-- All that the environment stands in with is taken. -/
def Takes (environment : Table String) (given : Invocation) : Prop :=
  ∀ option value, given.supplied? environment option = some value → option.Takes value

/-- What a command line asks for together with what the environment says in place of options. -/
def completed (environment : Table String) (given : Invocation) : Invocation :=
  { given with
    progressFile := given.progressFile.or (given.supplied? environment .progressFile)
    checkpointEvery := given.checkpointEvery.or
      ((given.supplied? environment .checkpointEvery).bind fun value => count? value.toList) }

section

variable {environment : Table String} {given : Invocation}

/-- Completing an option assigns what the environment supplies for it, and changes nothing without
that. -/
theorem complete_eq (option : ValueOption) :
    complete environment given option =
      match given.supplied? environment option with
      | none => .ok given
      | some value => given.assign option value := by
  unfold complete supplied?
  cases Table.get? environment option.variableName with
  | none => simp
  | some value =>
    by_cases sets : given.sets option = true
    · simp [sets]
    · simp [sets]

/-- The environment supplies only what the command line does not set. -/
theorem not_sets_of_supplied {option : ValueOption} {value : String}
    (supplied : given.supplied? environment option = some value) : given.sets option = false := by
  unfold supplied? at supplied
  split at supplied
  · cases supplied
  · rename_i unset
    simpa using unset

/-- So a progress file is supplied only when none was given. -/
theorem progressFile_of_supplied {value : String}
    (supplied : given.supplied? environment .progressFile = some value) : given.progressFile = none := by
  simpa [sets] using not_sets_of_supplied supplied

/-- So an interval is supplied only when none was given. -/
theorem checkpointEvery_of_supplied {value : String}
    (supplied : given.supplied? environment .checkpointEvery = some value) : given.checkpointEvery = none := by
  simpa [sets] using not_sets_of_supplied supplied

/-- Completing the progress file fills it in when it was not given and the environment has one to
take. -/
theorem complete_progressFile
    (takes : ∀ value, given.supplied? environment .progressFile = some value →
      ValueOption.progressFile.Takes value) :
    complete environment given .progressFile =
      .ok { given with progressFile := given.progressFile.or (given.supplied? environment .progressFile) } := by
  rw [complete_eq]
  cases supplied : given.supplied? environment .progressFile with
  | none => simp
  | some value =>
    have nonempty : value ≠ "" := takes value supplied
    simp [assign, not_sets_of_supplied supplied, progressFile_of_supplied supplied, nonempty]

/-- Completing the interval fills it in when it was not given and the environment has a count to
take. -/
theorem complete_checkpointEvery
    (takes : ∀ value, given.supplied? environment .checkpointEvery = some value →
      ValueOption.checkpointEvery.Takes value) :
    complete environment given .checkpointEvery =
      .ok { given with
        checkpointEvery := given.checkpointEvery.or
          ((given.supplied? environment .checkpointEvery).bind fun value => count? value.toList) } := by
  rw [complete_eq]
  cases supplied : given.supplied? environment .checkpointEvery with
  | none => simp
  | some value =>
    obtain ⟨every, read⟩ := Option.isSome_iff_exists.mp (takes value supplied)
    simp [assign, not_sets_of_supplied supplied, checkpointEvery_of_supplied supplied, read]

/-- A value that the option does not take is a misuse, though it comes from the environment. -/
theorem complete_of_refused {option : ValueOption} {value : String}
    (supplied : given.supplied? environment option = some value) (refused : ¬ option.Takes value) :
    complete environment given option = .error .misuse := by
  rw [complete_eq, supplied]
  simp only [assign, not_sets_of_supplied supplied, Bool.false_eq_true, if_false]
  cases option with
  | progressFile =>
    have empty : value.isEmpty = true := by simpa [ValueOption.Takes] using refused
    simp only [empty, if_true]
  | checkpointEvery =>
    have unread : count? value.toList = none := by simpa [ValueOption.Takes] using refused
    simp only [unread]

/-- The options are completed one after the other, the progress file first. -/
theorem foldlM_complete :
    ValueOption.all.foldlM (complete environment) given =
      (complete environment given .progressFile).bind fun next => complete environment next .checkpointEvery := by
  simp only [ValueOption.all, List.foldlM_cons, List.foldlM_nil, bind_pure]
  rfl

/-- The environment completes what a command line asks for if all that it stands in with is taken. -/
theorem foldlM_complete_of_takes (takes : given.Takes environment) :
    ValueOption.all.foldlM (complete environment) given = .ok (given.completed environment) := by
  rw [foldlM_complete, complete_progressFile (takes .progressFile), Except.bind]
  exact complete_checkpointEvery (takes .checkpointEvery)

/-- When not everything supplied is taken, some option refuses what is supplied for it. -/
theorem exists_refused (refused : ¬ given.Takes environment) :
    ∃ option value, given.supplied? environment option = some value ∧ ¬ option.Takes value := by
  obtain ⟨option, notTaken⟩ := Classical.not_forall.mp refused
  obtain ⟨value, notTaken⟩ := Classical.not_forall.mp notTaken
  exact ⟨option, value, Classical.not_imp.mp notTaken⟩

/-- Anything else that it stands in with is a misuse. -/
theorem foldlM_complete_of_refused (refused : ¬ given.Takes environment) :
    ValueOption.all.foldlM (complete environment) given = .error .misuse := by
  rw [foldlM_complete]
  by_cases file : ∀ value, given.supplied? environment .progressFile = some value →
      ValueOption.progressFile.Takes value
  · rw [complete_progressFile file, Except.bind]
    obtain ⟨option, value, supplied, notTaken⟩ := exists_refused refused
    cases option with
    | progressFile => exact absurd (file value supplied) notTaken
    | checkpointEvery => exact complete_of_refused supplied notTaken
  · obtain ⟨value, notTaken⟩ := Classical.not_forall.mp file
    obtain ⟨supplied, notTaken⟩ := Classical.not_imp.mp notTaken
    rw [complete_of_refused supplied notTaken]
    rfl

/-- Reading a command line is reading the arguments, and then letting the environment complete them. -/
theorem read_eq_bind (environment : Table String) (arguments : List String) :
    Invocation.read environment arguments =
      (arguments.foldlM Reading.readArgument Reading.start).bind fun reading =>
        if reading.waiting.isSome then .error .misuse
        else (ValueOption.all.foldlM (complete environment) reading.invocation).bind fun invocation =>
          if invocation.playbook.isNone then .error .misuse else .ok invocation := rfl

/-- Where a command line asks for a run by itself, the environment only completes what it asks for. -/
theorem read_eq {arguments : List String} (alone : Invocation.read [] arguments = .ok given) :
    Invocation.read environment arguments = ValueOption.all.foldlM (complete environment) given := by
  rw [read_eq_bind] at alone ⊢
  cases arrived : arguments.foldlM Reading.readArgument Reading.start with
  | error refusal =>
    rw [arrived] at alone
    cases alone
  | ok reading =>
    simp only [arrived, Except.bind] at alone ⊢
    split at alone
    · cases alone
    · rename_i done
      rw [if_neg done]
      -- an empty environment completes nothing
      have nothing : ValueOption.all.foldlM (complete []) reading.invocation = .ok reading.invocation := rfl
      simp only [nothing] at alone
      split at alone
      · cases alone
      · rename_i named
        cases alone
        by_cases takes : reading.invocation.Takes environment
        · rw [foldlM_complete_of_takes takes]
          exact if_neg named
        · rw [foldlM_complete_of_refused takes]

/-! ## The layers of the settings -/

/-- What is supplied for an option is the value of the option's variable. -/
theorem get?_of_supplied {option : ValueOption} {value : String}
    (supplied : given.supplied? environment option = some value) :
    Table.get? environment option.variableName = some value := by
  unfold supplied? at supplied
  split at supplied
  · cases supplied
  · exact supplied

variable {extended : Table String}

/-- The count that stands in for the option is the one that the settings read. -/
theorem settings_completed_checkpointEvery
    (stays : ∀ name value, Table.get? environment name = some value → Table.get? extended name = some value) :
    ((given.completed environment).settings extended).checkpointEvery =
      (given.settings extended).checkpointEvery := by
  show (given.checkpointEvery.or _).getD _ = given.checkpointEvery.getD _
  cases supplied : given.supplied? environment .checkpointEvery with
  | none => simp
  | some value =>
    rw [checkpointEvery_of_supplied supplied, Option.none_or, Option.bind_some, Option.getD_none]
    cases read : count? value.toList with
    | none => rfl
    | some every =>
      have said : Settings.saidCount? extended "PLAYBOOK_CHECKPOINT_EVERY" = some every :=
        Settings.saidCount?_of_count? (stays _ _ (get?_of_supplied supplied)) read
      show every = (Settings.saidCount? extended "PLAYBOOK_CHECKPOINT_EVERY").getD _
      rw [said, Option.getD_some]

/-- The name that stands in for the option is the one that the settings read if it has no blanks around it. -/
theorem settings_completed_progressFile_iff
    (stays : ∀ name value, Table.get? environment name = some value → Table.get? extended name = some value)
    (takes : ∀ value, given.supplied? environment .progressFile = some value →
      ValueOption.progressFile.Takes value) :
    ((given.completed environment).settings extended).progressFile = (given.settings extended).progressFile ↔
      ∀ value, given.supplied? environment .progressFile = some value → trimmed value = value := by
  show (given.progressFile.or _).getD _ = given.progressFile.getD _ ↔ _
  cases supplied : given.supplied? environment .progressFile with
  | none => simp
  | some value =>
    have set := stays _ _ (get?_of_supplied supplied)
    rw [progressFile_of_supplied supplied, Option.none_or, Option.getD_some, Option.getD_none, eq_comm,
      Settings.progressFile_ofEnvironment_eq_iff set (takes value supplied)]
    simp

/-- What stands in for options is what the settings read exactly if it has no blanks around it. -/
theorem settings_completed_eq_iff
    (stays : ∀ name value, Table.get? environment name = some value → Table.get? extended name = some value)
    (takes : given.Takes environment) :
    (given.completed environment).settings extended = given.settings extended ↔
      ∀ option value, given.supplied? environment option = some value → trimmed value = value := by
  have file := settings_completed_progressFile_iff stays (takes .progressFile)
  constructor
  · intro same option value supplied
    cases option with
    | progressFile => exact file.mp (by rw [same]) value supplied
    | checkpointEvery =>
      obtain ⟨every, read⟩ := Option.isSome_iff_exists.mp (takes .checkpointEvery value supplied)
      rw [trimmed, (Text.trim_of_count? read).1, String.ofList_toList]
  · intro plain
    have sameFile := file.mpr (plain .progressFile)
    have sameEvery : ((given.completed environment).settings extended).checkpointEvery =
        (given.settings extended).checkpointEvery := settings_completed_checkpointEvery stays
    exact congrArg₂ (fun file every =>
      { Settings.ofEnvironment extended with progressFile := file, checkpointEvery := every }) sameFile sameEvery

end

end Invocation

namespace Session

section

variable {environment : Table String} {arguments : List String} {outside : Outside} {session : Session}

/-- The environment of a session is the one that it is opened in, or what the environment file makes of it. -/
theorem environment_cases (opened : open? environment arguments outside = .ok session) :
    session.environment = environment ∨
      ∃ text, session.invocation.noDotenv = false ∧ outside.fileText environmentFile = .ok text ∧
        session.environment = EnvironmentFile.extend environment text := by
  unfold open? at opened
  cases read : Invocation.read environment arguments with
  | error refusal =>
    rw [read] at opened
    cases opened
  | ok invocation =>
    rw [read, Except.map, Except.ok.injEq] at opened
    split at opened
    · rename_i text asked found
      subst opened
      exact .inr ⟨text, asked, found, rfl⟩
    · subst opened
      exact .inl rfl

/-- What the environment sets stays set in a session. -/
theorem get?_environment (opened : open? environment arguments outside = .ok session) (name value : String)
    (set : Table.get? environment name = some value) : Table.get? session.environment name = some value := by
  rcases environment_cases opened with same | ⟨text, -, -, extended⟩
  · rw [same, set]
  · rw [extended, EnvironmentFile.get?_extend set]

/-- Without an environment file the environment of a session is the one that it is opened in. -/
theorem environment_eq (opened : open? environment arguments outside = .ok session)
    (fileless : session.invocation.noDotenv = true ∨ ∀ text, outside.fileText environmentFile ≠ .ok text) :
    session.environment = environment := by
  rcases environment_cases opened with same | ⟨text, asked, found, -⟩
  · exact same
  · rcases fileless with unasked | unfound
    · exact absurd (asked.symm.trans unasked) Bool.false_ne_true
    · exact absurd found (unfound text)

end

/-- A session asks for what its command line is read as. -/
theorem exists_open? {environment : Table String} {arguments : List String} {invocation : Invocation}
    (outside : Outside) (read : Invocation.read environment arguments = .ok invocation) :
    ∃ session, open? environment arguments outside = .ok session ∧ session.invocation = invocation := by
  unfold open?
  rw [read, Except.map]
  refine ⟨_, rfl, ?_⟩
  split <;> rfl

/-- Where a command line asks for a run by itself, it is taken in an environment unless the environment stands in for
an option that was not given with a value that the option does not take. The settings are then what the options say,
next what stands in for them, and last what the environment says otherwise. So the session is as the options and
the reading of its environment make it exactly if all that stands in is taken and has no blanks around it. Its
environment is the one that the command line is read in, unless there is an environment file to add to it. -/
theorem open?_layers {environment : Table String} {arguments : List String} {given : Invocation} (outside : Outside)
    (alone : Invocation.read [] arguments = .ok given) :
    (given.Takes environment →
      ∃ session, open? environment arguments outside = .ok session ∧
        session.settings = (given.completed environment).settings session.environment) ∧
    (¬ given.Takes environment → open? environment arguments outside = .error .misuse) ∧
    ((∃ session, open? environment arguments outside = .ok session ∧
        session.settings = given.settings session.environment) ↔
      given.Takes environment ∧
        ∀ option value, given.supplied? environment option = some value → trimmed value = value) ∧
    ∀ session, open? environment arguments outside = .ok session →
      given.noDotenv = true ∨ (∀ text, outside.fileText environmentFile ≠ .ok text) →
        session.environment = environment := by
  have read : Invocation.read environment arguments = _ := Invocation.read_eq alone
  have refusal : ¬ given.Takes environment → open? environment arguments outside = .error .misuse := by
    intro refused
    rw [open?, read, Invocation.foldlM_complete_of_refused refused]
    rfl
  have taken : given.Takes environment → ∃ session, open? environment arguments outside = .ok session ∧
      session.invocation = given.completed environment := by
    intro takes
    apply exists_open? outside
    rw [read, Invocation.foldlM_complete_of_takes takes]
  have took : ∀ session, open? environment arguments outside = .ok session →
      given.Takes environment ∧ session.invocation = given.completed environment := by
    intro session opened
    have takes : given.Takes environment := by
      apply Classical.byContradiction
      intro refused
      rw [refusal refused] at opened
      cases opened
    obtain ⟨_, again, invocation⟩ := taken takes
    cases again.symm.trans opened
    exact ⟨takes, invocation⟩
  refine ⟨fun takes => ?_, refusal, ⟨?_, ?_⟩, ?_⟩
  · obtain ⟨session, opened, invocation⟩ := taken takes
    exact ⟨session, opened, by rw [settings, invocation]⟩
  · rintro ⟨session, opened, same⟩
    obtain ⟨takes, invocation⟩ := took session opened
    rw [settings, invocation, Invocation.settings_completed_eq_iff (get?_environment opened) takes] at same
    exact ⟨takes, same⟩
  · rintro ⟨takes, plain⟩
    obtain ⟨session, opened, invocation⟩ := taken takes
    refine ⟨session, opened, ?_⟩
    rw [settings, invocation, Invocation.settings_completed_eq_iff (get?_environment opened) takes]
    exact plain
  · intro session opened fileless
    apply environment_eq opened
    rwa [(took session opened).2]

/-- A place to run in where nothing is there yet. -/
def emptyOutside : Outside := ⟨0, none, fun _ => .null, fun _ => .error "", (0, 0), [], []⟩

/-- An environment that asks for a snapshot after each step. -/
def carefulTrial : Table String := [("PLAYBOOK_CHECKPOINT_EVERY", "+1")]

/-- An environment whose progress file has a blank before its name. -/
def paddedTrial : Table String := [("PLAYBOOK_PROGRESS_FILE", " x")]

/-- What is asked for when only the playbook and the form of the log are given. -/
def plainGiven : Invocation := ⟨some "book.json", 0, none, none, false, true⟩

/-- What is asked for when the progress file is given too. -/
def filedGiven : Invocation := ⟨some "book.json", 0, some "a.json", none, false, false⟩

/-- A count that stands in for the option is as the settings read it, and an option that is given keeps what stands
in for it out. -/
theorem open?_layers_trial :
    Invocation.read [] ["--json", "book.json"] = .ok plainGiven ∧
      (∃ session, open? carefulTrial ["--json", "book.json"] emptyOutside = .ok session ∧
        session.settings = plainGiven.settings session.environment) ∧
      Invocation.read [] ["--progress-file=a.json", "book.json"] = .ok filedGiven ∧
      ∃ session, open? paddedTrial ["--progress-file=a.json", "book.json"] emptyOutside = .ok session ∧
        session.settings = filedGiven.settings session.environment := by
  have plain : Invocation.read [] ["--json", "book.json"] = .ok plainGiven := by decide +kernel
  have filed : Invocation.read [] ["--progress-file=a.json", "book.json"] = .ok filedGiven := by decide +kernel
  have counts : ∀ option value, plainGiven.supplied? carefulTrial option = some value →
      option.Takes value ∧ trimmed value = value := by
    intro option value supplied
    cases option with
    | progressFile => cases supplied
    | checkpointEvery =>
      cases (show some "+1" = some value from supplied)
      exact ⟨by unfold ValueOption.Takes; decide +kernel, by decide +kernel⟩
  have nothing : ∀ option value, filedGiven.supplied? paddedTrial option ≠ some value := by
    intro option value supplied
    cases option <;> cases supplied
  refine ⟨plain, (open?_layers emptyOutside plain).2.2.1.mpr ⟨?_, ?_⟩, filed,
    (open?_layers emptyOutside filed).2.2.1.mpr ⟨?_, ?_⟩⟩
  · exact fun option value supplied => (counts option value supplied).1
  · exact fun option value supplied => (counts option value supplied).2
  · exact fun option value supplied => absurd supplied (nothing option value)
  · exact fun option value supplied => absurd supplied (nothing option value)

/-- A count that cannot be read is ignored by the settings, but refused in place of the option; and a name with
blanks around it is cut by the settings, but not in place of the option. -/
theorem open?_layers_apart :
    open? [("PLAYBOOK_CHECKPOINT_EVERY", "often")] ["p.json"] emptyOutside = .error .misuse ∧
      Settings.ofEnvironment [("PLAYBOOK_CHECKPOINT_EVERY", "often")] = Settings.default ∧
      (open? paddedTrial ["p.json"] emptyOutside).map Session.settings =
        .ok (Settings.default.withProgressFile " x") ∧
      Settings.ofEnvironment paddedTrial = Settings.default.withProgressFile "x" := by
  refine ⟨?_, ?_, ?_, ?_⟩ <;> with_unfolding_all rfl

end Session

end Stepwise
