import NumeralStyle.Proofs.CommandLine.Configured

/-! Which setting counts. A flag for a group width hides the configuration, and what neither of them
gives is left at its default. The level of a kind is that of the strictest flag that names the kind,
whatever the order of the flags, and where none does, that of the last entry of the configuration that
names it. Settings are given by these rules whenever everything that counts is valid, and otherwise
refused, but for what a refusal cannot show (`Settings.merge_precedence`). -/
namespace NumeralStyle

/-! ## Names of kinds -/

namespace FindingKind

variable {name : Text} {kind other : FindingKind}

/-- A name that settings may use for the kind. -/
def IsNamed (kind : FindingKind) (name : Text) : Prop := normalized name = kind.tag.toList

instance (kind : FindingKind) (name : Text) : Decidable (kind.IsNamed name) :=
  inferInstanceAs (Decidable (_ = _))

theorem find?_tag (kind : FindingKind) :
    all.find? (fun other => other.tag.toList == kind.tag.toList) = some kind := by
  cases kind <;> rfl

theorem ofTag_eq_ok_iff : ofTag name = .ok kind ↔ kind.IsNamed name := by
  constructor
  · intro found
    unfold ofTag at found
    split at found
    · rename_i first search
      cases found
      have same := List.find?_some search
      rw [beq_iff_eq] at same
      exact same.symm
    · cases found
  · intro named
    rw [ofTag, show normalized name = kind.tag.toList from named, find?_tag]

/-- A name is that of one kind at most. -/
theorem IsNamed.unique (one : kind.IsNamed name) (two : other.IsNamed name) : kind = other := by
  have same := ofTag_eq_ok_iff.mpr one
  rw [ofTag_eq_ok_iff.mpr two, Except.ok.injEq] at same
  exact same.symm

end FindingKind

namespace Settings

open CommandLine (Arguments Choices)

variable {config : Table} {choices : Choices} {arguments : Arguments} {levels next last : Levels}
  {level : Level} {name : Text} {kind : FindingKind} {crash : Crash}

/-! ## One level after another -/

section

variable {α ε : Type} {step : Levels → α → Except ε Levels} {given : FindingKind → α → Option Level}

/-- Where each step gives some kinds a level and leaves the others as they are, a kind has the level of
the last step that gives it one. -/
theorem get?_foldlM (sets : ∀ levels item next, step levels item = .ok next →
      ∀ kind, next.get? kind = (given kind item).or (levels.get? kind))
    (items : List α) (made : items.foldlM step levels = .ok last) (kind : FindingKind) :
    last.get? kind = (items.reverse.findSome? (given kind)).or (levels.get? kind) := by
  induction items generalizing levels with
  | nil =>
    cases made
    rfl
  | cons item items ih =>
    rw [List.foldlM_cons] at made
    cases first : step levels item with
    | error reason =>
      rw [first] at made
      cases made
    | ok next =>
      rw [first] at made
      rw [ih made, sets levels item next first kind, List.reverse_cons, List.findSome?_append,
        Option.or_assoc, List.findSome?_singleton]

end

theorem get?_setNamed (made : setNamed levels name level = .ok next) (kind : FindingKind) :
    next.get? kind = (if kind.IsNamed name then some level else none).or (levels.get? kind) := by
  unfold setNamed at made
  split at made
  · rename_i other found
    cases made
    have named := FindingKind.ofTag_eq_ok_iff.mp found
    by_cases same : kind = other
    · subst same
      rw [if_pos named, Levels.get?_set_self, Option.some_or]
    · rw [if_neg fun also => same (also.unique named), Levels.get?_set_of_ne _ _ same, Option.none_or]
  · cases made

/-- The level that an entry of a configuration gives a kind. -/
def entryLevel? (kind : FindingKind) (entry : Text × Value) : Option Level :=
  if kind.IsNamed entry.1 then level? entry.2 else none

/-- The level that a flag gives a kind. -/
def flagLevel? (kind : FindingKind) (given : Level × Option Text) : Option Level :=
  if ∃ name ∈ given.2, kind.IsNamed name then some given.1 else none

theorem get?_setEntry [Platform] (levels : Levels) (entry : Text × Value) (next : Levels)
    (made : setEntry levels entry = .ok next) (kind : FindingKind) :
    next.get? kind = (entryLevel? kind entry).or (levels.get? kind) := by
  unfold setEntry at made
  cases read : level? entry.2 with
  | none =>
    rw [read] at made
    cases made
  | some level =>
    rw [read] at made
    rw [get?_setNamed made, entryLevel?, read]

theorem get?_setFlag (levels : Levels) (given : Level × Option Text) (next : Levels)
    (made : setFlag given.1 levels given.2 = .ok next) (kind : FindingKind) :
    next.get? kind = (flagLevel? kind given).or (levels.get? kind) := by
  obtain ⟨level, none | name⟩ := given
  · cases made
  · rw [get?_setNamed made, flagLevel?]
    simp

/-! ## Flags in any order -/

/-- A flag that gives the level to the kind. -/
def Flagged (choices : Choices) (level : Level) (kind : FindingKind) : Prop :=
  ∃ given ∈ choices.lints, given.1 = level ∧ ∃ name ∈ given.2, kind.IsNamed name

instance (choices : Choices) (level : Level) (kind : FindingKind) :
    Decidable (Flagged choices level kind) :=
  inferInstanceAs (Decidable (∃ given ∈ choices.lints, _ ∧ _))

theorem mem_named_reverse {given : Level × Option Text} :
    given ∈ ((choices.named level).map (Prod.mk level)).reverse ↔
      given ∈ choices.lints ∧ given.1 = level := by
  obtain ⟨other, name⟩ := given
  simp only [Choices.named, List.mem_reverse, List.mem_map, List.mem_filter, beq_iff_eq, Prod.mk.injEq]
  constructor
  · rintro ⟨_, ⟨⟨same, found⟩, ⟨among, rfl⟩, rfl⟩, rfl, rfl⟩
    exact ⟨among, rfl⟩
  · rintro ⟨among, rfl⟩
    exact ⟨name, ⟨(other, name), ⟨among, rfl⟩, rfl⟩, rfl, rfl⟩

/-- The flags of one level give it to the kinds that they name. -/
theorem findSome?_named (choices : Choices) (level : Level) (kind : FindingKind) :
    ((choices.named level).map (Prod.mk level)).reverse.findSome? (flagLevel? kind) =
      if Flagged choices level kind then some level else none := by
  split
  · rename_i flagged
    obtain ⟨given, among, same, named⟩ := flagged
    cases found : ((choices.named level).map (Prod.mk level)).reverse.findSome? (flagLevel? kind) with
    | none =>
      have silent := List.findSome?_eq_none_iff.mp found given (mem_named_reverse.mpr ⟨among, same⟩)
      rw [flagLevel?, if_pos named] at silent
      cases silent
    | some other =>
      obtain ⟨first, inside, gives⟩ := List.exists_of_findSome?_eq_some found
      rw [flagLevel?, Option.ite_none_right_eq_some, (mem_named_reverse.mp inside).2] at gives
      exact gives.2.symm
  · rename_i unflagged
    rw [List.findSome?_eq_none_iff]
    intro given inside
    obtain ⟨among, same⟩ := mem_named_reverse.mp inside
    rw [flagLevel?, if_neg fun named => unflagged ⟨given, among, same, named⟩]

/-- The level that flags give a kind: the strictest of those that name it. -/
def flaggedLevel? (choices : Choices) (kind : FindingKind) : Option Level :=
  if Flagged choices .deny kind then some .deny
  else if Flagged choices .warn kind then some .warn
  else if Flagged choices .allow kind then some .allow
  else none

theorem findSome?_flagsInOrder (choices : Choices) (kind : FindingKind) :
    (flagsInOrder choices).reverse.findSome? (flagLevel? kind) = flaggedLevel? choices kind := by
  have order : (flagsInOrder choices).reverse =
      ((choices.named .deny).map (Prod.mk .deny)).reverse ++
        (((choices.named .warn).map (Prod.mk .warn)).reverse ++
          ((choices.named .allow).map (Prod.mk .allow)).reverse) := by
    simp only [flagsInOrder, Level.all, List.flatMap_cons, List.flatMap_nil, List.append_nil,
      List.reverse_append, List.append_assoc]
  rw [order, List.findSome?_append, List.findSome?_append, findSome?_named, findSome?_named,
    findSome?_named, flaggedLevel?]
  split
  · rfl
  · split <;> rfl

/-- What flags give does not depend on their order, or on how often they are given. -/
theorem flagged_congr {others : List (Level × Option Text)}
    (same : ∀ given, given ∈ others ↔ given ∈ choices.lints) (level : Level) (kind : FindingKind) :
    Flagged { choices with lints := others } level kind ↔ Flagged choices level kind := by
  unfold Flagged
  exact exists_congr fun given => and_congr_left' (same given)

/-! ## What counts -/

/-- The level that a configuration and flags give a kind: that of the flags, or else that of the last
entry of the configuration that names the kind. -/
def levelFor? (config : Table) (choices : Choices) (kind : FindingKind) : Option Level :=
  (flaggedLevel? choices kind).or
    (((Config.section? config "lints").reverse.find? fun entry => kind.IsNamed entry.1).bind
      fun entry => level? entry.2)

/-- The value that counts for a group width: that of the flag, or else that of the table of the
configuration if it has one, or else the default. -/
def widthFor (config : Table) (choices : Choices) (setting : WidthSetting) : Value :=
  match choices.width? setting, config.get? "grouping".toList with
  | some value, _ => value
  | none, some (.table entries) => (Table.get? entries setting.name.toList).getD (.integer setting.default)
  | none, _ => .integer setting.default

/-- A value that is a group width. -/
def IsWidth (value : Value) : Prop := ∃ width : Nat, 0 < width ∧ value = .integer width

/-- An entry of a configuration that gives a level to a kind. -/
def IsEntry (entry : Text × Value) : Prop :=
  (∃ level : Level, entry.2 = .text level.tag.toList) ∧ ∃ kind : FindingKind, kind.IsNamed entry.1

/-- A flag that names a kind. -/
def NamesKind (given : Level × Option Text) : Prop :=
  ∃ name ∈ given.2, ∃ kind : FindingKind, kind.IsNamed name

/-- A configuration and flags in which everything that counts is valid. -/
structure Valid (config : Table) (choices : Choices) : Prop where
  widths : ∀ setting, IsWidth (widthFor config choices setting)
  entries : ∀ entry ∈ Config.section? config "lints", IsEntry entry
  flags : ∀ given ∈ choices.lints, NamesKind given

theorem widthFor_eq (config : Table) (choices : Choices) (setting : WidthSetting) :
    widthFor config choices setting =
      (Config.widthValue? config setting (choices.width? setting)).getD (.integer setting.default) := by
  unfold widthFor Config.widthValue? Config.section?
  cases choices.width? setting with
  | some value => rfl
  | none =>
    cases config.get? "grouping".toList with
    | none => rfl
    | some value => cases value <;> rfl

theorem isWidth_default (setting : WidthSetting) : IsWidth (.integer setting.default) := by
  refine ⟨setting.default, ?_, rfl⟩
  cases setting <;> exact Nat.succ_pos _

theorem widthAccepted_iff {setting : WidthSetting} :
    WidthAccepted (Config.widthValue? config setting (choices.width? setting)) ↔
      IsWidth (widthFor config choices setting) := by
  rw [widthFor_eq]
  cases Config.widthValue? config setting (choices.width? setting) with
  | none => exact iff_of_true (fun _ none => nomatch none) (isWidth_default setting)
  | some value => simp [WidthAccepted, IsWidth]

theorem ofTag?_tag (level : Level) : Level.ofTag? level.tag.toList = some level := by
  cases level <;> rfl

theorem level?_eq_some_iff {value : Value} :
    level? value = some level ↔ value = .text level.tag.toList := by
  constructor
  · intro read
    cases value with
    | text tag =>
      have same := List.find?_some read
      rw [beq_iff_eq] at same
      rw [same]
    | _ => cases read
  · rintro rfl
    exact ofTag?_tag level

theorem entryAccepted_iff {entry : Text × Value} : EntryAccepted entry ↔ IsEntry entry := by
  simp only [EntryAccepted, IsEntry, level?_eq_some_iff, FindingKind.ofTag_eq_ok_iff]

theorem flagAccepted_iff {given : Level × Option Text} : FlagAccepted given.2 ↔ NamesKind given := by
  simp only [FlagAccepted, NamesKind, FindingKind.ofTag_eq_ok_iff, Option.mem_def]

theorem merge_returns_iff_valid [Platform] :
    (∃ settings, merge config arguments = .ok settings) ↔ Valid config arguments.toChoices := by
  rw [merge_returns_iff]
  simp only [WidthsAccepted, EntriesAccepted, widthAccepted_iff, entryAccepted_iff, flagAccepted_iff]
  exact ⟨fun ⟨widths, entries, flags⟩ => ⟨widths, entries, flags⟩,
    fun valid => ⟨valid.widths, valid.entries, valid.flags⟩⟩

/-! ## What settings are -/

/-- The last entry that gives the kind a level is the last that names it, where all give levels. -/
theorem findSome?_entryLevel {entries : List (Text × Value)}
    (valid : ∀ entry ∈ entries, IsEntry entry) (kind : FindingKind) :
    entries.findSome? (entryLevel? kind) =
      (entries.find? fun entry => kind.IsNamed entry.1).bind fun entry => level? entry.2 := by
  induction entries with
  | nil => rfl
  | cons entry entries ih =>
    obtain ⟨here, behind⟩ := List.forall_mem_cons.mp valid
    obtain ⟨⟨level, given⟩, -⟩ := here
    have read := level?_eq_some_iff.mpr given
    rw [List.findSome?_cons, List.find?_cons, entryLevel?]
    by_cases named : kind.IsNamed entry.1
    · simp only [named, if_true, decide_true, read, Option.bind_some]
    · simp only [named, if_false, decide_false, ih behind]

/-- The levels that a configuration and flags give are those that count. -/
theorem get?_levelsOf [Platform] (valid : ∀ entry ∈ Config.section? config "lints", IsEntry entry)
    (made : levelsOf config choices = .ok levels) (kind : FindingKind) :
    levels.get? kind = levelFor? config choices kind := by
  rw [levelsOf_eq] at made
  obtain ⟨configured, entries, flags⟩ := bind_eq_ok_iff.mp made
  have reversed : ∀ entry ∈ (Config.section? config "lints").reverse, IsEntry entry :=
    fun entry among => valid entry (List.mem_reverse.mp among)
  rw [get?_foldlM get?_setFlag _ flags, get?_foldlM get?_setEntry _ entries, findSome?_flagsInOrder,
    findSome?_entryLevel reversed, levelFor?]
  exact congrArg _ (Option.or_none)

theorem eq_integer_of_positive? {value : Value} {width : { n : Nat // 0 < n }}
    (found : Widths.positive? value = some width) : value = .integer width.1 := by
  cases value with
  | integer n =>
    simp only [Widths.positive?, Option.dite_none_right_eq_some, Option.some.injEq] at found
    obtain ⟨positive, rfl⟩ := found
    simp only [Value.integer.injEq]
    omega
  | _ => cases found

theorem eq_of_read [Platform] {setting : WidthSetting} {given : Option Value}
    {width : { n : Nat // 0 < n }} (read : Widths.read setting given = .ok width) :
    .integer width.1 = given.getD (.integer setting.default) := by
  cases given with
  | none =>
    cases read
    rfl
  | some value =>
    cases found : Widths.positive? value with
    | none =>
      simp only [Widths.read, found] at read
      cases read
    | some width =>
      simp only [Widths.read, found] at read
      cases read
      exact (eq_integer_of_positive? found).symm

/-- The group widths of settings are those that count. -/
theorem widths_eq [Platform]
    {widths : Widths} (made : Config.widths config choices.width? = .ok widths) :
    .integer widths.decimal = widthFor config choices .decimal ∧
      .integer widths.prefixed = widthFor config choices .prefixed := by
  obtain ⟨decimal, first, made⟩ := bind_eq_ok_iff.mp made
  obtain ⟨other, second, made⟩ := bind_eq_ok_iff.mp made
  cases made
  rw [widthFor_eq, widthFor_eq]
  exact ⟨eq_of_read first, eq_of_read second⟩

theorem merge_eq_ok_iff [Platform] {settings : Settings} : merge config arguments = .ok settings ↔
    ∃ widths levels, Config.widths config arguments.width? = .ok widths ∧
      levelsOf config arguments.toChoices = .ok levels ∧
      settings = ⟨arguments.files.map Path.ofText, widths, levels, arguments.debug⟩ := by
  rw [merge, bind_eq_ok_iff]
  simp only [mapError_returns_iff, bind_eq_ok_iff]
  constructor
  · rintro ⟨widths, first, levels, second, made⟩
    cases made
    exact ⟨widths, levels, first, second, rfl⟩
  · rintro ⟨widths, levels, first, second, rfl⟩
    exact ⟨widths, first, levels, second, rfl⟩

theorem resolve_of_loaded [Platform] {look : Path → Entry}
    (loaded : Config.load look (configPath arguments) = .ok config) :
    resolve look arguments = merge config arguments := by
  rw [resolve, loaded]
  rfl

/-- Settings are refused where something is not valid and the refusal can be said. -/
theorem merge_refused_iff [Platform] : (∃ fault, merge config arguments = .error (.refused fault)) ↔
    ¬ Valid config arguments.toChoices ∧ ∀ crash, ¬ Unsaid config arguments.toChoices crash := by
  rw [← merge_returns_iff_valid]
  simp only [← merge_crashed_iff]
  rcases merge config arguments with (fault | crash) | settings <;> simp

/-- The flags for levels may be given in any order, and any number of times. -/
theorem merge_reordered [Platform] {settings : Settings} (made : merge config arguments = .ok settings)
    (lints : List (Level × Option Text)) (same : ∀ given, given ∈ lints ↔ given ∈ arguments.lints) :
    ∃ other, merge config { arguments with lints := lints } = .ok other ∧
      other.files = settings.files ∧ other.widths = settings.widths ∧
      other.debug = settings.debug ∧
      ∀ kind, other.levels.get? kind = settings.levels.get? kind := by
  have valid := merge_returns_iff_valid.mp ⟨settings, made⟩
  have again : Valid config { arguments.toChoices with lints := lints } :=
    ⟨valid.widths, valid.entries, fun given among => valid.flags given ((same given).mp among)⟩
  obtain ⟨other, made'⟩ : ∃ other, merge config { arguments with lints := lints } = .ok other :=
    merge_returns_iff_valid.mpr again
  refine ⟨other, made', ?_⟩
  obtain ⟨widths, levels, wide, leveled, rfl⟩ := merge_eq_ok_iff.mp made
  obtain ⟨widths', levels', wide', leveled', rfl⟩ := merge_eq_ok_iff.mp made'
  have width := wide'.symm.trans wide
  rw [Except.ok.injEq] at width
  refine ⟨rfl, width, rfl, fun kind => ?_⟩
  have flagged (level : Level) := flagged_congr same level kind
  rw [get?_levelsOf valid.entries leveled, get?_levelsOf valid.entries leveled', levelFor?, levelFor?,
    flaggedLevel?, flaggedLevel?]
  simp only [flagged]

/-- Which of its settings a configuration and arguments give. There are settings exactly if everything
that counts is valid: both group widths, every entry that gives a level, and every flag that does. The
widths are then those that count, and the level of each kind is that of the strictest flag that names
it, or else that of the last entry that does; the order of the flags makes no difference, nor does it
matter if one is repeated. Where something is not valid, it is refused, but for a value that cannot be
shown and a flag that has no name: there a run crashes. -/
theorem merge_precedence [Platform] (config : Table) (arguments : Arguments) :
    (∀ look, Config.load look (configPath arguments) = .ok config →
      resolve look arguments = merge config arguments) ∧
    ((∃ settings, merge config arguments = .ok settings) ↔ Valid config arguments.toChoices) ∧
    ((∃ fault, merge config arguments = .error (.refused fault)) ↔
      ¬ Valid config arguments.toChoices ∧ ∀ crash, ¬ Unsaid config arguments.toChoices crash) ∧
    (∀ crash, merge config arguments = .error (.crashed crash) ↔
      Unsaid config arguments.toChoices crash) ∧
    ∀ settings, merge config arguments = .ok settings →
      .integer settings.widths.decimal = widthFor config arguments.toChoices .decimal ∧
      .integer settings.widths.prefixed = widthFor config arguments.toChoices .prefixed ∧
      (∀ kind, settings.levels.get? kind = levelFor? config arguments.toChoices kind) ∧
      ∀ lints, (∀ given, given ∈ lints ↔ given ∈ arguments.lints) →
        ∃ other, merge config { arguments with lints := lints } = .ok other ∧
          other.files = settings.files ∧ other.widths = settings.widths ∧
          other.debug = settings.debug ∧
          ∀ kind, other.levels.get? kind = settings.levels.get? kind := by
  refine ⟨fun look => resolve_of_loaded, merge_returns_iff_valid, merge_refused_iff,
    fun crash => merge_crashed_iff, fun settings made => ?_⟩
  have valid := merge_returns_iff_valid.mp ⟨settings, made⟩
  have reordered := merge_reordered made
  obtain ⟨widths, levels, wide, leveled, rfl⟩ := merge_eq_ok_iff.mp made
  obtain ⟨decimal, other⟩ := widths_eq wide
  exact ⟨decimal, other, get?_levelsOf valid.entries leveled, reordered⟩

/-- A flag hides a width that is none, the last of two spellings of a kind counts, and of two flags the
stricter one, whichever comes first. -/
theorem merge_precedence_flags : ∃ config arguments settings other,
    Config.section? config "lints" =
      [("mixed-case-hex".toList, .text "deny".toList), ("MIXED_CASE_HEX".toList, .text "allow".toList),
        ("large_digit_groups".toList, .text "allow".toList)] ∧
    Config.widthValue? config .decimal none = some (.integer 0) ∧
    arguments.decimalWidth = some (.integer 5) ∧
    arguments.lints =
      [(.deny, some "large-digit-groups".toList), (.warn, some "large_digit_groups".toList)] ∧
    merge config arguments = .ok settings ∧ settings.widths.decimal = 5 ∧
    settings.levels.get? .mixedCaseHex = some .allow ∧ settings.levels.get? .largeGroups = some .deny ∧
    merge config { arguments with lints := arguments.lints.reverse } = .ok other ∧
      ∀ kind, other.levels.get? kind = settings.levels.get? kind := by
  let config : Table :=
    [("grouping".toList, .table [("decimal_group_size".toList, .integer 0)]),
      ("lints".toList, .table
        [("mixed-case-hex".toList, .text "deny".toList), ("MIXED_CASE_HEX".toList, .text "allow".toList),
          ("large_digit_groups".toList, .text "allow".toList)])]
  let arguments : Arguments :=
    ⟨⟨none, some (.integer 5), none,
      [(.deny, some "large-digit-groups".toList), (.warn, some "large_digit_groups".toList)], false⟩,
      [['a']], List.cons_ne_nil _ _⟩
  obtain ⟨settings, made⟩ : ∃ settings, merge config arguments = .ok settings := ⟨_, rfl⟩
  obtain ⟨-, -, -, -, results⟩ := merge_precedence config arguments
  obtain ⟨decimal, -, levels, reordered⟩ := results settings made
  obtain ⟨other, made', -, -, -, same⟩ := reordered arguments.lints.reverse (by simp)
  refine ⟨config, arguments, settings, other, rfl, rfl, rfl, rfl, made, ?_, ?_, ?_, made', same⟩
  · have five : Value.integer settings.widths.decimal = .integer 5 := decimal
    rw [Value.integer.injEq] at five
    omega
  · rw [levels]
    rfl
  · rw [levels]
    rfl

theorem oversize_of_digitLimit (depth : Nat) :
    (Value.integer (tenTo Text.digitLimit)).oversize? depth = some .numeral := by
  change Oversize.ofNumeral? (tenTo Text.digitLimit) = some .numeral
  rw [Oversize.ofNumeral?, Int.natAbs_natCast, if_pos (Nat.le_refl _)]

/-- A number in the place of a level is not valid, but one with too many digits is not refused either:
the refusal would have to show it. -/
theorem merge_long_level_crashes : ∃ config arguments,
    config = [("lints".toList, .table [("mixed_case_hex".toList, .integer (tenTo Text.digitLimit))])] ∧
    Arguments.ofTexts [['a']] = .ok arguments ∧
    ¬ Valid config arguments.toChoices ∧
    merge config arguments = .error (.crashed (.oversize .numeral)) := by
  obtain ⟨arguments, read, unset⟩ : ∃ arguments, Arguments.ofTexts [['a']] = .ok arguments ∧
      ∀ setting, arguments.width? setting = none :=
    ⟨_, rfl, fun setting => by cases setting <;> rfl⟩
  refine ⟨_, arguments, rfl, read, fun valid => ?_, ?_⟩
  · obtain ⟨⟨level, text⟩, -⟩ := valid.entries _ List.mem_cons_self
    cases text
  · refine merge_crashed_iff.mpr (.level ?_ rfl (List.forall_mem_nil _) rfl
      (oversize_of_digitLimit _))
    intro setting
    rw [unset setting]
    exact fun value given => nomatch given

end Settings
end NumeralStyle
