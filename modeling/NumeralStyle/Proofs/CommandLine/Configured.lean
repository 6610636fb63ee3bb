import NumeralStyle.CommandLine.Run
import NumeralStyle.Proofs.Text.OneLine

/-! What becomes of a run by its configuration and its flags. Where all of them are accepted it has
settings. Where not, the first of them that is at fault is refused: the run says so on one line, looks
at no source file and fails. Some faults are not refused, and the run crashes (`Unhandled`); these are
all (`Settings.resolve_outcome`). -/
namespace NumeralStyle

/-! ## Steps that can fail -/

section

variable {α β ε ε' : Type} {first : Except ε α} {second : α → Except ε β} {fault : ε}

theorem bind_eq_ok_iff {last : β} : first >>= second = .ok last ↔
    ∃ next, first = .ok next ∧ second next = .ok last := by
  cases first <;> simp [bind, Except.bind]

theorem bind_returns_iff : (∃ last, first >>= second = .ok last) ↔
    ∃ next, first = .ok next ∧ ∃ last, second next = .ok last := by
  cases first <;> simp [bind, Except.bind]

theorem bind_fails_iff : first >>= second = .error fault ↔
    first = .error fault ∨ ∃ next, first = .ok next ∧ second next = .error fault := by
  cases first <;> simp [bind, Except.bind]

theorem mapError_returns_iff {f : ε → ε'} {value : α} :
    first.mapError f = .ok value ↔ first = .ok value := by
  cases first <;> simp [Except.mapError]

theorem mapError_fails_iff {f : ε → ε'} {reason : ε'} :
    first.mapError f = .error reason ↔ ∃ fault, first = .error fault ∧ f fault = reason := by
  cases first <;> simp [Except.mapError]

end

section

variable {α σ ε : Type} {f : σ → α → Except ε σ} {accepted fails : α → Prop} {fault : ε}

/-- A fold returns if each of its steps does, whatever the step starts from. -/
theorem foldlM_returns_iff (step : ∀ state item, (∃ next, f state item = .ok next) ↔ accepted item)
    (state : σ) (items : List α) :
    (∃ last, items.foldlM f state = .ok last) ↔ ∀ item ∈ items, accepted item := by
  induction items generalizing state with
  | nil => exact ⟨fun _ => List.forall_mem_nil _, fun _ => ⟨state, rfl⟩⟩
  | cons item items ih =>
    rw [List.forall_mem_cons, ← step state item, List.foldlM_cons]
    cases made : f state item with
    | error fault => simp [bind, Except.bind]
    | ok next => simpa [bind, Except.bind] using ih next

/-- A fold fails at its first step that does. -/
theorem foldlM_fails_iff (step : ∀ state item, (∃ next, f state item = .ok next) ↔ accepted item)
    (failed : ∀ state item, f state item = .error fault ↔ fails item) (state : σ) (items : List α) :
    items.foldlM f state = .error fault ↔
      ∃ before item after, items = before ++ item :: after ∧
        (∀ earlier ∈ before, accepted earlier) ∧ fails item := by
  induction items generalizing state with
  | nil => simp [pure, Except.pure]
  | cons item items ih =>
    rw [List.foldlM_cons]
    cases made : f state item with
    | error reason =>
      have refused : ¬ accepted item := by
        rw [← step state item, made]
        simp
      have here : reason = fault ↔ fails item := by
        rw [← failed state item, made, Except.error.injEq]
      constructor
      · rintro ⟨⟩
        exact ⟨[], item, items, rfl, List.forall_mem_nil _, here.mp rfl⟩
      · rintro ⟨before, other, after, split, fine, fault⟩
        cases before with
        | nil =>
          cases split
          rw [here.mpr fault]
          rfl
        | cons first before =>
          cases split
          exact absurd (fine item List.mem_cons_self) refused
    | ok next =>
      have fine : accepted item := (step state item).mp ⟨next, made⟩
      have passes : ¬ fails item := by
        rw [← failed state item, made]
        simp
      refine (ih next).trans ⟨?_, ?_⟩
      · rintro ⟨before, other, after, rfl, others, fault⟩
        exact ⟨item :: before, other, after, rfl, List.forall_mem_cons.mpr ⟨fine, others⟩, fault⟩
      · rintro ⟨before, other, after, split, others, fault⟩
        cases before with
        | nil =>
          cases split
          exact absurd fault passes
        | cons first before =>
          cases split
          exact ⟨before, other, after, rfl, (List.forall_mem_cons.mp others).2, fault⟩

end

namespace Settings

open CommandLine (Arguments Choices Run linesOf)

variable {levels : Levels} {level : Level} {name : Text} {crash : Crash}

/-! ## One setting -/

/-- An entry of a configuration that gives the level of a kind. -/
def EntryAccepted (entry : Text × Value) : Prop :=
  (∃ level, level? entry.2 = some level) ∧ ∃ kind, FindingKind.ofTag entry.1 = .ok kind

/-- A flag that names a kind. -/
def FlagAccepted (flag : Option Text) : Prop :=
  ∃ name, flag = some name ∧ ∃ kind, FindingKind.ofTag name = .ok kind

/-- A setting that gives a group width, or is not set. -/
def WidthAccepted (given : Option Value) : Prop := ∀ value ∈ given, ∃ n : Nat, 0 < n ∧ value = .integer n

theorem setNamed_returns_iff :
    (∃ next, setNamed levels name level = .ok next) ↔ ∃ kind, FindingKind.ofTag name = .ok kind := by
  unfold setNamed
  cases FindingKind.ofTag name <;> simp

theorem setNamed_ne_crashed : setNamed levels name level ≠ .error (.crashed crash) := by
  unfold setNamed
  split <;> simp

theorem setEntry_returns_iff [Platform] (levels : Levels) (entry : Text × Value) :
    (∃ next, setEntry levels entry = .ok next) ↔ EntryAccepted entry := by
  unfold setEntry EntryAccepted
  cases level? entry.2 with
  | none => simp
  | some level => simp [setNamed_returns_iff]

theorem setEntry_crashed_iff [Platform] (crash : Crash) (levels : Levels) (entry : Text × Value) :
    setEntry levels entry = .error (.crashed crash) ↔
      level? entry.2 = none ∧
        ∃ reason, entry.2.oversize? Platform.levelDepth = some reason ∧ crash = .oversize reason := by
  unfold setEntry Failure.ofLevel
  cases level? entry.2 with
  | none => cases entry.2.oversize? Platform.levelDepth <;> simp [eq_comm]
  | some level => simp [setNamed_ne_crashed]

theorem setFlag_returns_iff (levels : Levels) (given : Level × Option Text) :
    (∃ next, setFlag given.1 levels given.2 = .ok next) ↔ FlagAccepted given.2 := by
  unfold FlagAccepted
  cases given.2 with
  | none => simp [setFlag]
  | some name => simp [setFlag, setNamed_returns_iff]

theorem setFlag_crashed_iff (crash : Crash) (levels : Levels) (given : Level × Option Text) :
    setFlag given.1 levels given.2 = .error (.crashed crash) ↔
      given.2 = none ∧ crash = .nameless := by
  cases given.2 with
  | none => simp [setFlag, eq_comm]
  | some name => simp [setFlag, setNamed_ne_crashed]

theorem read_returns_iff [Platform] (setting : WidthSetting) (given : Option Value) :
    (∃ width, Widths.read setting given = .ok width) ↔ WidthAccepted given := by
  cases given with
  | none => simp [Widths.read, WidthAccepted]
  | some value =>
    have width : (∃ width, Widths.positive? value = some width) ↔
        ∃ n : Nat, 0 < n ∧ value = .integer n := by
      cases value with
      | integer n =>
        simp only [Widths.positive?, Value.integer.injEq]
        split
        · rename_i positive
          exact ⟨fun _ => ⟨n.toNat, positive, by omega⟩, fun _ => ⟨_, rfl⟩⟩
        · rename_i small
          refine ⟨fun found => by simp at found, fun ⟨k, positive, same⟩ => absurd positive (by omega)⟩
      | _ => simp [Widths.positive?]
    simp only [Widths.read, WidthAccepted, Option.mem_some_iff, forall_eq', ← width]
    cases Widths.positive? value <;> simp

theorem read_fails_iff [Platform] {setting : WidthSetting} {given : Option Value}
    {fault : Widths.Fault} :
    Widths.read setting given = .error fault ↔
      ∃ value, given = some value ∧ Widths.positive? value = none ∧ fault = .ofValue setting value := by
  cases given with
  | none => simp [Widths.read]
  | some value =>
    simp only [Widths.read, Option.some.injEq, exists_eq_left']
    cases Widths.positive? value <;> simp [eq_comm]

theorem crash?_ofValue [Platform] {setting : WidthSetting} {value : Value} {reason : Oversize} :
    (Widths.Fault.ofValue setting value).crash? = some reason ↔
      reason = .nesting ∧ value.oversize? Platform.widthDepth = some .nesting := by
  unfold Widths.Fault.ofValue
  cases value.oversize? Platform.widthDepth with
  | none => simp [Widths.Fault.crash?]
  | some other => cases other <;> simp [Widths.Fault.crash?, eq_comm]

/-- An integer holds no values. -/
theorem positive?_of_nesting {depth : Nat} {value : Value}
    (deep : value.oversize? depth = some .nesting) : Widths.positive? value = none := by
  cases value with
  | integer n =>
    have number : Oversize.ofNumeral? n = some .nesting := deep
    unfold Oversize.ofNumeral? at number
    split at number <;> simp at number
  | _ => rfl

/-! ## All settings -/

section

variable {config : Table} {choices : Choices} {look : Path → Entry} {path : Path} {fault : Config.Fault}

/-- Entries of a configuration that all give the levels of kinds. -/
def EntriesAccepted (config : Table) : Prop := ∀ entry ∈ Config.section? config "lints", EntryAccepted entry

/-- Group widths each of which is given or not set. A flag hides what the configuration has. -/
def WidthsAccepted (config : Table) (choices : Choices) : Prop :=
  ∀ setting, WidthAccepted (Config.widthValue? config setting (choices.width? setting))

/-- The flags that give levels, in the order in which they count. -/
def flagsInOrder (choices : Choices) : List (Level × Option Text) :=
  Level.all.flatMap fun level => (choices.named level).map (Prod.mk level)

theorem mem_flagsInOrder {given : Level × Option Text} :
    given ∈ flagsInOrder choices ↔ given ∈ choices.lints := by
  obtain ⟨level, name⟩ := given
  have every : level ∈ Level.all := by cases level <;> decide
  simp [flagsInOrder, Choices.named, every]

theorem levelsOf_eq [Platform] (config : Table) (choices : Choices) :
    levelsOf config choices = (Config.section? config "lints").foldlM setEntry [] >>= fun levels =>
      (flagsInOrder choices).foldlM (fun levels given => setFlag given.1 levels given.2) levels := by
  have flags (order : List Level) (levels : Levels) : order.foldlM (setFlags choices) levels =
      (order.flatMap fun level => (choices.named level).map (Prod.mk level)).foldlM
        (fun levels given => setFlag given.1 levels given.2) levels := by
    -- The names of one level are a fold of their own; put together they are one fold.
    induction order generalizing levels with
    | nil => rfl
    | cons level order ih =>
      rw [List.foldlM_cons, List.flatMap_cons, List.foldlM_append, List.foldlM_map]
      exact congrArg _ (funext ih)
  rw [levelsOf]
  exact congrArg _ (funext (flags Level.all))

theorem entries_return_iff [Platform] :
    (∃ levels, (Config.section? config "lints").foldlM setEntry [] = .ok levels) ↔
      EntriesAccepted config :=
  foldlM_returns_iff setEntry_returns_iff [] _

theorem flags_return_iff (levels : Levels) :
    (∃ last, (flagsInOrder choices).foldlM (fun levels given => setFlag given.1 levels given.2) levels =
      .ok last) ↔ ∀ given ∈ choices.lints, FlagAccepted given.2 := by
  rw [foldlM_returns_iff setFlag_returns_iff]
  exact forall_congr' fun given => by rw [mem_flagsInOrder]

/-- Levels are given if every entry and every flag is accepted. -/
theorem levelsOf_returns_iff [Platform] : (∃ levels, levelsOf config choices = .ok levels) ↔
    EntriesAccepted config ∧ ∀ given ∈ choices.lints, FlagAccepted given.2 := by
  rw [levelsOf_eq, bind_returns_iff, ← entries_return_iff]
  simp only [flags_return_iff, exists_and_right]

/-- Giving levels crashes at a level that cannot be shown, and at a flag without a name. -/
theorem levelsOf_crashed_iff [Platform] : levelsOf config choices = .error (.crashed crash) ↔
    (∃ before entry after, Config.section? config "lints" = before ++ entry :: after ∧
      (∀ earlier ∈ before, EntryAccepted earlier) ∧ level? entry.2 = none ∧
        ∃ reason, entry.2.oversize? Platform.levelDepth = some reason ∧ crash = .oversize reason) ∨
    EntriesAccepted config ∧
      ∃ before given after, flagsInOrder choices = before ++ given :: after ∧
        (∀ earlier ∈ before, FlagAccepted earlier.2) ∧ given.2 = none ∧ crash = .nameless := by
  rw [levelsOf_eq, bind_fails_iff, foldlM_fails_iff setEntry_returns_iff (setEntry_crashed_iff crash),
    ← entries_return_iff]
  simp only [foldlM_fails_iff setFlag_returns_iff (setFlag_crashed_iff crash), exists_and_right]

theorem widths_returns_iff [Platform] :
    (∃ widths, Config.widths config choices.width? = .ok widths) ↔ WidthsAccepted config choices := by
  have both : WidthsAccepted config choices ↔
      WidthAccepted (Config.widthValue? config .decimal (choices.width? .decimal)) ∧
        WidthAccepted (Config.widthValue? config .prefixed (choices.width? .prefixed)) :=
    ⟨fun every => ⟨every _, every _⟩, fun both setting => by cases setting <;> simp [both]⟩
  rw [both, ← read_returns_iff .decimal, ← read_returns_iff .prefixed, Config.widths,
    Widths.ofSettings, bind_returns_iff]
  simp only [bind_returns_iff]
  simp [pure, Except.pure]

/-- Group widths are refused at the first setting that gives none. -/
theorem widths_fails_iff [Platform] {fault : Widths.Fault} :
    Config.widths config choices.width? = .error fault ↔
    ∃ setting value, Config.widthValue? config setting (choices.width? setting) = some value ∧
      Widths.positive? value = none ∧ fault = .ofValue setting value ∧ (setting = .prefixed →
        WidthAccepted (Config.widthValue? config .decimal (choices.width? .decimal))) := by
  rw [Config.widths, Widths.ofSettings, bind_fails_iff, read_fails_iff]
  simp only [bind_fails_iff, read_fails_iff]
  constructor
  · rintro (⟨value, given, none, rfl⟩ | ⟨width, read, ⟨value, given, none, rfl⟩ | ⟨other, -, never⟩⟩)
    · exact ⟨.decimal, value, given, none, rfl, by simp⟩
    · exact ⟨.prefixed, value, given, none, rfl, fun _ => (read_returns_iff .decimal _).mp ⟨width, read⟩⟩
    · cases never
  · rintro ⟨setting, value, given, none, rfl, earlier⟩
    cases setting with
    | decimal => exact .inl ⟨value, given, none, rfl⟩
    | «prefixed» =>
      obtain ⟨width, read⟩ := (read_returns_iff .decimal _).mpr (earlier rfl)
      exact .inr ⟨width, read, .inl ⟨value, given, none, rfl⟩⟩

theorem ofWidths_crashed_iff {fault : Widths.Fault} : Failure.ofWidths fault = .crashed crash ↔
    ∃ reason, fault.crash? = some reason ∧ crash = .oversize reason := by
  cases reason : fault.crash? <;> simp [Failure.ofWidths, reason, eq_comm]

/-- Giving group widths crashes at a value that holds values too deeply. -/
theorem widths_crashed_iff [Platform] :
    (Config.widths config choices.width?).mapError Failure.ofWidths = .error (.crashed crash) ↔
      ∃ setting value, Config.widthValue? config setting (choices.width? setting) = some value ∧
        value.oversize? Platform.widthDepth = some .nesting ∧ crash = .oversize .nesting ∧
        (setting = .prefixed →
          WidthAccepted (Config.widthValue? config .decimal (choices.width? .decimal))) := by
  simp only [mapError_fails_iff, ofWidths_crashed_iff, widths_fails_iff]
  constructor
  · rintro ⟨-, ⟨setting, value, given, -, rfl, earlier⟩, reason, crashes, rfl⟩
    obtain ⟨rfl, deep⟩ := crash?_ofValue.mp crashes
    exact ⟨setting, value, given, deep, rfl, earlier⟩
  · rintro ⟨setting, value, given, deep, rfl, earlier⟩
    exact ⟨_, ⟨setting, value, given, positive?_of_nesting deep, rfl, earlier⟩, .nesting,
      crash?_ofValue.mpr ⟨rfl, deep⟩, rfl⟩

/-- What giving settings crashes at: a value at fault that no refusal can show, or a flag that has no
name. -/
inductive Unsaid [Platform] (config : Table) (choices : Choices) : Crash → Prop
  /-- The first group width that is none holds values too deeply. -/
  | width {setting : WidthSetting} {value : Value} :
      Config.widthValue? config setting (choices.width? setting) = some value →
      value.oversize? Platform.widthDepth = some .nesting →
      (setting = .prefixed →
        WidthAccepted (Config.widthValue? config .decimal (choices.width? .decimal))) →
      Unsaid config choices (.oversize .nesting)
  /-- The first entry at fault has a level that cannot be shown. -/
  | level {before after : Table} {name : Text} {value : Value} {reason : Oversize} :
      WidthsAccepted config choices →
      Config.section? config "lints" = before ++ (name, value) :: after →
      (∀ earlier ∈ before, EntryAccepted earlier) → level? value = none →
      value.oversize? Platform.levelDepth = some reason → Unsaid config choices (.oversize reason)
  /-- The first flag at fault has no name. -/
  | nameless {level : Level} {before after : List (Level × Option Text)} :
      WidthsAccepted config choices → EntriesAccepted config →
      flagsInOrder choices = before ++ (level, none) :: after →
      (∀ earlier ∈ before, FlagAccepted earlier.2) → Unsaid config choices .nameless

theorem merge_crashed_iff [Platform] {arguments : Arguments} :
    merge config arguments = .error (.crashed crash) ↔ Unsaid config arguments.toChoices crash := by
  rw [merge, bind_fails_iff, widths_crashed_iff]
  simp only [bind_fails_iff, mapError_returns_iff, levelsOf_crashed_iff]
  constructor
  · rintro (⟨setting, value, given, deep, rfl, earlier⟩ | ⟨widths, made, crashed | ⟨_, _, never⟩⟩)
    · exact .width given deep earlier
    · have accepted := widths_returns_iff.mp ⟨widths, made⟩
      rcases crashed with ⟨before, entry, after, split, fine, unknown, reason, oversize, rfl⟩ |
        ⟨entries, before, ⟨level, name⟩, after, split, fine, rfl, rfl⟩
      · exact .level accepted split fine unknown oversize
      · exact .nameless accepted entries split fine
    · cases never
  · intro unsaid
    cases unsaid with
    | width given deep earlier => exact .inl ⟨_, _, given, deep, rfl, earlier⟩
    | level accepted split fine unknown oversize =>
      obtain ⟨widths, made⟩ := widths_returns_iff.mpr accepted
      exact .inr ⟨widths, made, .inl (.inl ⟨_, _, _, split, fine, unknown, _, oversize, rfl⟩)⟩
    | nameless accepted entries split fine =>
      obtain ⟨widths, made⟩ := widths_returns_iff.mpr accepted
      exact .inr ⟨widths, made, .inl (.inr ⟨entries, _, _, _, split, fine, rfl, rfl⟩)⟩

theorem load_fails_iff [Platform] : Config.load look path = .error fault ↔
    (∃ reason, look path = .failed reason ∧ reason.isAbsence = false ∧ fault = .unopened path reason) ∨
      ∃ bytes, look path = .file bytes ∧ Config.ofBytes bytes = .error fault := by
  unfold Config.load
  cases look path with
  | failed reason => cases present : reason.isAbsence <;> simp [present, @eq_comm _ fault]
  | _ => simp

theorem ofConfig_crashed_iff : Failure.ofConfig fault = .crashed crash ↔
    crash = .config fault ∧
      ∀ text syntaxFault, fault = .document text syntaxFault → syntaxFault.isSyntax = false := by
  cases fault with
  | document text reason =>
    cases known : reason.isSyntax <;> simp [Failure.ofConfig, known, @eq_comm _ crash]
  | _ => simp [Failure.ofConfig, @eq_comm _ crash]

theorem ofBytes_fails_iff [Platform] {bytes : List UInt8} : Config.ofBytes bytes = .error fault ↔
    (∃ reason, Utf8.decode bytes = .error reason ∧ fault = .undecodable reason) ∨
      ∃ text reason, Utf8.decode bytes = .ok text ∧ Toml.parse text = .error reason ∧
        fault = .document text reason := by
  unfold Config.ofBytes
  cases Utf8.decode bytes with
  | error reason => simp [eq_comm]
  | ok text => cases parsed : Toml.parse text <;> simp [Except.mapError, parsed, eq_comm]

end

/-- What a run crashes at before it has settings. -/
inductive Unhandled [Platform] (look : Path → Entry) (arguments : Arguments) : Crash → Prop
  /-- There may be a configuration file, but the system does not open it. -/
  | unopened {fault : SystemFault} :
      look (configPath arguments) = .failed fault → fault.isAbsence = false →
      Unhandled look arguments (.config (.unopened (configPath arguments) fault))
  /-- The configuration file is not in UTF-8. -/
  | undecodable {bytes : List UInt8} {fault : Utf8.Fault} :
      look (configPath arguments) = .file bytes → Utf8.decode bytes = .error fault →
      Unhandled look arguments (.config (.undecodable fault))
  /-- It has an integer that is too long, or holds values too deeply. -/
  | document {bytes : List UInt8} {text : Text} {fault : Toml.Fault} :
      look (configPath arguments) = .file bytes → Utf8.decode bytes = .ok text →
      Toml.parse text = .error fault → fault.isSyntax = false →
      Unhandled look arguments (.config (.document text fault))
  /-- The first group width that is none holds values too deeply. -/
  | width {config : Table} {setting : WidthSetting} {value : Value} :
      Config.load look (configPath arguments) = .ok config →
      Config.widthValue? config setting (arguments.width? setting) = some value →
      value.oversize? Platform.widthDepth = some .nesting →
      (setting = .prefixed →
        WidthAccepted (Config.widthValue? config .decimal (arguments.width? .decimal))) →
      Unhandled look arguments (.oversize .nesting)
  /-- The first entry at fault has a level that cannot be shown. -/
  | level {config before after : Table} {name : Text} {value : Value} {reason : Oversize} :
      Config.load look (configPath arguments) = .ok config →
      WidthsAccepted config arguments.toChoices →
      Config.section? config "lints" = before ++ (name, value) :: after →
      (∀ earlier ∈ before, EntryAccepted earlier) → level? value = none →
      value.oversize? Platform.levelDepth = some reason → Unhandled look arguments (.oversize reason)
  /-- The first flag at fault has no name. -/
  | nameless {config : Table} {level : Level} {before after : List (Level × Option Text)} :
      Config.load look (configPath arguments) = .ok config →
      WidthsAccepted config arguments.toChoices →
      EntriesAccepted config →
      flagsInOrder arguments.toChoices = before ++ (level, none) :: after →
      (∀ earlier ∈ before, FlagAccepted earlier.2) → Unhandled look arguments .nameless

/-- A configuration and flags that are accepted. -/
structure Accepted [Platform] (look : Path → Entry) (arguments : Arguments) (config : Table) :
    Prop where
  loaded : Config.load look (configPath arguments) = .ok config
  widths : WidthsAccepted config arguments.toChoices
  entries : EntriesAccepted config
  flags : ∀ given ∈ arguments.lints, FlagAccepted given.2

variable {look : Path → Entry} {arguments : Arguments} {config : Table}

theorem merge_returns_iff [Platform] : (∃ settings, merge config arguments = .ok settings) ↔
    WidthsAccepted config arguments.toChoices ∧ EntriesAccepted config ∧
      ∀ given ∈ arguments.lints, FlagAccepted given.2 := by
  rw [merge, bind_returns_iff, ← widths_returns_iff, ← levelsOf_returns_iff]
  simp only [bind_returns_iff, mapError_returns_iff]
  simp [pure, Except.pure]

theorem resolve_returns_iff [Platform] : (∃ settings, resolve look arguments = .ok settings) ↔
    ∃ config, Accepted look arguments config := by
  rw [resolve, bind_returns_iff]
  simp only [mapError_returns_iff, merge_returns_iff]
  exact exists_congr fun config => ⟨fun ⟨loaded, widths, entries, flags⟩ =>
    ⟨loaded, widths, entries, flags⟩, fun accepted =>
    ⟨accepted.loaded, accepted.widths, accepted.entries, accepted.flags⟩⟩

theorem resolve_crashed_iff [Platform] :
    resolve look arguments = .error (.crashed crash) ↔ Unhandled look arguments crash := by
  rw [resolve, bind_fails_iff]
  simp only [mapError_fails_iff, mapError_returns_iff, ofConfig_crashed_iff, load_fails_iff,
    ofBytes_fails_iff, merge_crashed_iff]
  constructor
  · rintro (⟨fault, failed, rfl, known⟩ | ⟨config, loaded, unsaid⟩)
    · rcases failed with ⟨reason, failed, present, rfl⟩ | ⟨bytes, found, failed⟩
      · exact .unopened failed present
      · rcases failed with ⟨reason, undecoded, rfl⟩ | ⟨text, reason, decoded, unparsed, rfl⟩
        · exact .undecodable found undecoded
        · exact .document found decoded unparsed (known text reason rfl)
    · cases unsaid with
      | width given deep earlier => exact .width loaded given deep earlier
      | level widths split fine unknown oversize =>
        exact .level loaded widths split fine unknown oversize
      | nameless widths entries split fine => exact .nameless loaded widths entries split fine
  · intro unhandled
    cases unhandled with
    | unopened failed present => exact .inl ⟨_, .inl ⟨_, failed, present, rfl⟩, rfl, by simp⟩
    | undecodable found undecoded => exact .inl ⟨_, .inr ⟨_, found, .inl ⟨_, undecoded, rfl⟩⟩, rfl, by simp⟩
    | document found decoded unparsed known =>
      exact .inl ⟨_, .inr ⟨_, found, .inr ⟨_, _, decoded, unparsed, rfl⟩⟩, rfl, by simpa using known⟩
    | width loaded given deep earlier => exact .inr ⟨_, loaded, .width given deep earlier⟩
    | level loaded widths split fine unknown oversize =>
      exact .inr ⟨_, loaded, .level widths split fine unknown oversize⟩
    | nameless loaded widths entries split fine =>
      exact .inr ⟨_, loaded, .nameless widths entries split fine⟩

/-! ## What a refusal says -/

theorem feed_not_mem_oversize (reason : Oversize) : '\n' ∉ reason.message.toList := by
  cases reason <;> decide +kernel

theorem feed_not_mem_widths (fault : Widths.Fault) : '\n' ∉ fault.message.toList := by
  cases fault with
  | notPositive setting value =>
    have shown := Value.feed_not_mem_shown value
    have name : '\n' ∉ setting.name.toList := by cases setting <;> decide
    simp [Widths.Fault.message, name, shown]
  | oversize reason => exact feed_not_mem_oversize reason

theorem feed_not_mem_tags :
    '\n' ∉ (String.intercalate ", " (FindingKind.all.map FindingKind.tag)).toList := by decide +kernel

theorem feed_not_mem_lint (unknown : FindingKind.Unknown) : '\n' ∉ unknown.message.toList := by
  have quoted := Text.feed_not_mem_quoted unknown.name
  change '\n' ∉ ("unknown lint " ++ Text.quotedString unknown.name ++ " (expected one of: " ++
    String.intercalate ", " (FindingKind.all.map FindingKind.tag) ++ ")").toList
  simp only [Text.quotedString, String.toList_append, String.toList_ofList, List.mem_append, quoted,
    feed_not_mem_tags, or_false]
  decide

theorem feed_not_mem_toml [Toml.Wording] (text : Text) (fault : Toml.Fault) :
    '\n' ∉ (fault.message text).toList := by
  cases fault with
  | longInteger digits =>
    have number : '\n' ∉ (toString digits).toList := Text.feed_not_mem_ofNat digits
    change '\n' ∉ ("Exceeds the limit (4300 digits) for integer string conversion: value has " ++
      toString digits ++ " digits; use sys.set_int_max_str_digits() to increase the limit").toList
    simp only [String.toList_append, List.mem_append, number, or_false]
    decide
  | tooDeep =>
    change '\n' ∉ "maximum recursion depth exceeded".toList
    decide
  | _ => exact Toml.Wording.oneLine text _

/-- A refusal is said on one line. -/
theorem feed_not_mem_message [Toml.Wording] (fault : Fault) : '\n' ∉ fault.message.toList := by
  cases fault with
  | config text fault =>
    change '\n' ∉ ("invalid config file: " ++ fault.message text).toList
    simp [feed_not_mem_toml text fault]
  | widths fault => exact feed_not_mem_widths fault
  | level value name =>
    have shown := Value.feed_not_mem_shown value
    have quoted := Text.feed_not_mem_quoted name
    change '\n' ∉ ("invalid level " ++ String.ofList value.shown ++ " for lint " ++
      Text.quotedString name ++ " (expected allow, warn or deny)").toList
    simp [Text.quotedString, shown, quoted]
  | lint unknown => exact feed_not_mem_lint unknown

/-! ## Runs -/

/-- A run whose settings are refused prints the refusal and nothing else, whatever its source files are. -/
theorem ofTexts_of_refused [Platform] [Toml.Wording] {fault : Fault} {texts : List Text}
    {look' : Path → Entry}
    (read : Arguments.ofTexts texts = .ok arguments)
    (refused : resolve look arguments = .error (.refused fault))
    (same : look' (configPath arguments) = look (configPath arguments)) :
    Run.ofTexts look' texts = ⟨[], ("error: " ++ fault.message).toList ++ ['\n'], .refused⟩ := by
  have config : Config.load look' (configPath arguments) = Config.load look (configPath arguments) := by
    rw [Config.load, same, Config.load]
  have again : resolve look' arguments = .error (.refused fault) := by
    rw [resolve, config, ← refused, resolve]
  simp only [Run.ofTexts, read, again, Run.ofFailure, linesOf, List.flatMap_cons, List.flatMap_nil,
    List.append_nil]

/-- What becomes of a run by its configuration and its flags. There are settings exactly if all of
both are accepted. The run crashes exactly where a fault is not handled: the configuration file is not
opened although it may be there, is not in UTF-8, has an integer that is too long or holds values too
deeply, a value cannot be shown in the refusal of it, or a flag has no name. Whatever else is wrong is
refused: the run prints nothing but one line in the error output and ends with the code 2, and any
other files than the configuration file may be changed without changing that. -/
theorem resolve_outcome [Platform] [Toml.Wording] (look : Path → Entry) (arguments : Arguments) :
    ((∃ settings, resolve look arguments = .ok settings) ↔
      ∃ config, Accepted look arguments config) ∧
    (∀ crash, resolve look arguments = .error (.crashed crash) ↔ Unhandled look arguments crash) ∧
    ∀ fault, resolve look arguments = .error (.refused fault) →
      '\n' ∉ fault.message.toList ∧
      ∀ texts, Arguments.ofTexts texts = .ok arguments →
        ∀ look' : Path → Entry, look' (configPath arguments) = look (configPath arguments) →
          Run.ofTexts look' texts =
              ⟨[], ("error: " ++ fault.message).toList ++ ['\n'], .refused⟩ ∧
            (Run.ofTexts look' texts).ending.exitCode = 2 := by
  refine ⟨resolve_returns_iff, fun crash => resolve_crashed_iff, fun fault refused =>
    ⟨feed_not_mem_message fault, fun texts read look' same => ?_⟩⟩
  have ran := ofTexts_of_refused read refused same
  exact ⟨ran, by rw [ran]; rfl⟩

/-- A flag with an unknown name is refused, before a file that is not in UTF-8 is looked at. -/
theorem resolve_outcome_unknown_flag :
    ∃ arguments fault, Arguments.ofTexts [['-', 'D', 'x'], ['a']] = .ok arguments ∧
      resolve (fun _ => .missing) arguments = .error (.refused fault) ∧
      '\n' ∉ fault.message.toList ∧
      Run.ofTexts (fun path => if path = ⟨[], [['a']]⟩ then .file [0xFF] else .missing)
        [['-', 'D', 'x'], ['a']] = ⟨[], ("error: " ++ fault.message).toList ++ ['\n'], .refused⟩ := by
  obtain ⟨arguments, read, refused, path⟩ :
      ∃ arguments, Arguments.ofTexts [['-', 'D', 'x'], ['a']] = .ok arguments ∧
        resolve (fun _ => .missing) arguments = .error (.refused (.lint ⟨['x']⟩)) ∧
        configPath arguments = ⟨[], [Config.fileName]⟩ := ⟨_, rfl, rfl, rfl⟩
  obtain ⟨-, -, refusal⟩ := resolve_outcome (fun _ => .missing) arguments
  obtain ⟨oneLine, runs⟩ := refusal _ refused
  obtain ⟨ran, -⟩ := runs _ read (fun path => if path = ⟨[], [['a']]⟩ then .file [0xFF] else .missing)
    (by rw [path]; rfl)
  exact ⟨arguments, _, read, refused, oneLine, ran⟩

/-- A configuration file that is not in UTF-8 crashes a run before anything is checked. -/
theorem resolve_undecodable_crashes :
    ∃ arguments, Arguments.ofTexts [['a']] = .ok arguments ∧
      Tree.look [([Config.fileName], .file [0xFF]), ([['a']], .file [])] (configPath arguments) =
        .file [0xFF] ∧
      resolve (Tree.look [([Config.fileName], .file [0xFF]), ([['a']], .file [])]) arguments =
        .error (.crashed (.config (.undecodable ⟨0xFF, 0, 1, .invalidStart⟩))) ∧
      Run.ofTexts (Tree.look [([Config.fileName], .file [0xFF]), ([['a']], .file [])]) [['a']] =
        ⟨[], [], .crashed (.config (.undecodable ⟨0xFF, 0, 1, .invalidStart⟩))⟩ := by
  obtain ⟨arguments, read, path⟩ : ∃ arguments, Arguments.ofTexts [['a']] = .ok arguments ∧
      configPath arguments = ⟨[], [Config.fileName]⟩ := ⟨_, rfl, rfl⟩
  have found : Tree.look [([Config.fileName], .file [0xFF]), ([['a']], .file [])]
      ⟨[], [Config.fileName]⟩ = .file [0xFF] := by decide +kernel
  have crashes : resolve (Tree.look [([Config.fileName], .file [0xFF]), ([['a']], .file [])]) arguments =
      .error (.crashed (.config (.undecodable ⟨0xFF, 0, 1, .invalidStart⟩))) := by
    rw [resolve, path, Config.load, found]
    rfl
  refine ⟨arguments, read, path ▸ found, crashes, ?_⟩
  simp only [Run.ofTexts, read, crashes, Run.ofFailure]

end Settings
end NumeralStyle
