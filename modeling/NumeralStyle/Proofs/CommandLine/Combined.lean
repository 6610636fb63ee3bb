import NumeralStyle.CommandLine.Run
import NumeralStyle.Proofs.Check.Reported

/-! Runs over several files. What a check adds to a run does not depend on what the run printed before,
and makes it no less grave. So a run over files and then others is the one run and then the other
(`Run.onFiles_append`), and a run that does not crash prints what it prints on each file alone, and is as
grave as the gravest file (`Run.onFiles_combines`). -/
namespace NumeralStyle.CommandLine

variable {look : Path → Entry} {settings : Settings}

/-! ## How grave a file is -/

/-- The literals of a file that can be read, decoded and scanned, if each can be taken apart. -/
def literalsOf (entry : Entry) : Option (List Literal) := do
  let source ← (Files.source entry).toOption
  let tokens ← (Scan.ofText source).toOption
  tokens.mapM fun token => (Literal.parse token.raw).toOption

/-- Whether there is advice on a literal of a kind that is denied. -/
def isDenied (settings : Settings) (literal : Literal) : Bool :=
  (literal.advice settings.widths).any fun advice => settings.levels.levelOf advice.kind = .deny

/-- The exit code that a file calls for. -/
def gravity (settings : Settings) (entry : Entry) : Nat :=
  match literalsOf entry with
  | none => 2
  | some literals => if literals.any (isDenied settings) then 1 else 0

section

variable {entry : Entry} {source : Text} {tokens : List Token} {reports : List Report}

theorem mapM_eq_some_iff {α β : Type} {f : α → Option β} {items : List α} {results : List β} :
    items.mapM f = some results ↔ items.map f = results.map some := by
  induction items generalizing results with
  | nil => cases results <;> simp
  | cons item items ih =>
    rw [List.mapM_cons, List.map_cons]
    cases found : f item with
    | none => cases results <;> simp
    | some result =>
      cases results with
      | nil => simp [Option.bind_eq_some_iff]
      | cons first others =>
        simp only [Option.bind_eq_bind, Option.bind_some, Option.bind_eq_some_iff, Option.pure_def,
          Option.some.injEq, List.map_cons, List.cons.injEq, ← ih]
        constructor
        · rintro ⟨rest, mapped, rfl, rfl⟩
          exact ⟨rfl, mapped⟩
        · rintro ⟨rfl, mapped⟩
          exact ⟨others, mapped, rfl, rfl⟩

theorem literalsOf_unread {fault : Files.Fault} (unread : Files.source entry = .error fault) :
    literalsOf entry = none := by
  simp [literalsOf, unread, Except.toOption]

theorem literalsOf_unscanned {stop : Stop} (read : Files.source entry = .ok source)
    (unscanned : Scan.ofText source = .error stop) : literalsOf entry = none := by
  simp [literalsOf, read, unscanned, Except.toOption]

theorem literalsOf_unparsed {token : Token} {fault : Literal.Fault}
    (read : Files.source entry = .ok source) (scanned : Scan.ofText source = .ok tokens)
    (among : token ∈ tokens) (unparsed : Literal.parse token.raw = .error fault) :
    literalsOf entry = none := by
  simp only [literalsOf, read, scanned, Except.toOption, Option.bind_eq_bind, Option.bind_some]
  rw [Option.eq_none_iff_forall_ne_some]
  intro literals found
  have member : none ∈ literals.map some := by
    rw [← mapM_eq_some_iff.mp found]
    exact List.mem_map.mpr ⟨token, among, by rw [unparsed]⟩
  simp at member

theorem literalsOf_reported [Platform] (read : Files.source entry = .ok source)
    (scanned : Scan.ofText source = .ok tokens)
    (matched : tokens.map (Report.ofToken settings.widths) = reports.map .ok) :
    literalsOf entry = some (reports.map (·.literal)) := by
  simp only [literalsOf, read, scanned, Except.toOption, Option.bind_eq_bind, Option.bind_some]
  rw [mapM_eq_some_iff, List.map_map]
  refine Report.map_of_matched matched fun token _ report _ reported => ?_
  rw [(Report.ofToken_eq_ok_iff.mp reported).1]
  rfl

theorem get?_eq_deny {levels : Levels} {kind : FindingKind} :
    (levels.get? kind == some .deny) = decide (levels.levelOf kind = .deny) := by
  rw [Levels.levelOf]
  cases levels.get? kind with
  | none => rfl
  | some level => cases level <;> rfl

/-- Findings are of a kind that is denied where the advice on their literals is. -/
theorem any_denied [Platform]
    (matched : tokens.map (Report.ofToken settings.widths) = reports.map .ok) :
    ((findingsOf reports).any fun finding => settings.levels.get? finding.kind == some .deny) =
      (reports.map (·.literal)).any (isDenied settings) := by
  have each : ∀ report ∈ reports,
      (report.findings.any fun finding => settings.levels.get? finding.kind == some .deny) =
        isDenied settings report.literal := by
    intro report among
    obtain ⟨token, -, reported⟩ := Report.exists_token matched among
    rw [(Report.ofToken_eq_ok_iff.mp reported).2.2.2, List.any_map]
    simp only [Function.comp_def, get?_eq_deny]
    rfl
  rw [findingsOf, List.any_flatMap, List.any_map, Bool.eq_iff_iff, List.any_eq_true,
    List.any_eq_true]
  refine exists_congr fun report => and_congr_right fun among => ?_
  rw [each report among]
  rfl

end

namespace Status

variable {first second : Status}

/-- The graver of two statuses. -/
def graver (first second : Status) : Status :=
  if first.exitCode < second.exitCode then second else first

theorem exitCode_injective (same : first.exitCode = second.exitCode) : first = second := by
  cases first <;> cases second <;> first | rfl | cases same

theorem exitCode_graver : (first.graver second).exitCode = max first.exitCode second.exitCode := by
  cases first <;> cases second <;> rfl

@[simp]
theorem graver_passed : first.graver .passed = first := by
  cases first <;> rfl

@[simp]
theorem graver_failed : first.graver .failed = .failed := by
  cases first <;> rfl

/-- A check that denies the graver of two statuses denies the later one. -/
theorem denied_graver {denied : Bool} :
    (if first.graver second = .passed ∧ denied then .denied else first.graver second) =
      first.graver (if second = .passed ∧ denied then .denied else second) := by
  cases first <;> cases second <;> cases denied <;> rfl

end Status

namespace Outcome

/-- One outcome and then another. -/
def append (first second : Outcome) : Outcome :=
  ⟨first.out ++ second.out, first.err ++ second.err, first.status.graver second.status⟩

theorem append_nothing (outcome : Outcome) : outcome.append .nothing = outcome := by
  simp [append, nothing]

end Outcome

/-! ## One check after another -/

section

variable {earlier sofar : Outcome} {file source : Text}

/-- A check that fails adds the same to a run, whatever was there before. -/
theorem fail_from {message : Text} :
    (earlier.append sofar).fail message = earlier.append (sofar.fail message) := by
  simp [Outcome.fail, Outcome.append]

theorem checkReports_from {reports : List Report} :
    checkReports settings file source (earlier.append sofar) reports =
      earlier.append (checkReports settings file source sofar reports) := by
  refine (Outcome.mk.injEq _ _ _ _ _ _).mpr ⟨?_, ?_, Status.denied_graver⟩
  · exact List.append_assoc _ _ _
  · exact List.append_assoc _ _ _

theorem checkSource_from [Platform] :
    checkSource settings file (earlier.append sofar) source =
      (checkSource settings file sofar source).map earlier.append := by
  unfold checkSource
  split
  · rw [checkReports_from]
    rfl
  · rw [fail_from]
    rfl
  · rfl
  · rw [fail_from]
    rfl
  · rfl

theorem checkFile_from [Platform] {path : Path} {entry : Entry} :
    checkFile settings (earlier.append sofar) path entry =
      (checkFile settings sofar path entry).map earlier.append := by
  unfold checkFile
  dsimp only
  split
  · exact checkSource_from
  · rw [fail_from]
    rfl
  · rw [fail_from]
    rfl
  · rfl

/-- Whatever was there before the checks of files stays in front of what they add. -/
theorem checkFiles_from [Platform] {paths : List Path} :
    checkFiles settings look (earlier.append sofar) paths =
      (checkFiles settings look sofar paths).map earlier.append id := by
  induction paths generalizing sofar with
  | nil => rfl
  | cons path rest ih =>
    rw [checkFiles, checkFiles, checkFile_from]
    cases checkFile settings sofar path (look path) with
    | error crash => rfl
    | ok outcome => exact ih

theorem checkFiles_append [Platform] {paths others : List Path} :
    checkFiles settings look sofar (paths ++ others) =
      match checkFiles settings look sofar paths with
      | (outcome, none) => checkFiles settings look outcome others
      | (outcome, some crash) => (outcome, some crash) := by
  induction paths generalizing sofar with
  | nil => rfl
  | cons path rest ih =>
    rw [List.cons_append, checkFiles, checkFiles]
    cases checkFile settings sofar path (look path) with
    | error crash => rfl
    | ok outcome => exact ih

theorem checkFiles_files [Platform] {files paths : List Path} :
    checkFiles { settings with files } look sofar paths = checkFiles settings look sofar paths := by
  induction paths generalizing sofar with
  | nil => rfl
  | cons path rest ih =>
    have same : checkFile { settings with files } sofar path (look path) =
        checkFile settings sofar path (look path) := rfl
    rw [checkFiles, checkFiles, same]
    cases checkFile settings sofar path (look path) with
    | error crash => rfl
    | ok outcome => exact ih

theorem fail_gravity {entry : Entry} {message : Text} (fails : literalsOf entry = none) :
    (Outcome.nothing.fail message).status.exitCode = gravity settings entry ∧
      (literalsOf entry = none → (Outcome.nothing.fail message).out = []) := by
  simp only [gravity, fails]
  exact ⟨rfl, fun _ => rfl⟩

theorem checkSource_gravity [Platform] {entry : Entry} {outcome : Outcome}
    (read : Files.source entry = .ok source)
    (checked : checkSource settings file .nothing source = .ok outcome) :
    outcome.status.exitCode = gravity settings entry ∧
      (literalsOf entry = none → outcome.out = []) := by
  unfold checkSource at checked
  split at checked
  · rename_i reports analyzed
    obtain ⟨tokens, scanned, matched⟩ := analyze_eq_ok_iff.mp analyzed
    have literals := literalsOf_reported read scanned matched
    cases checked
    simp only [checkReports, any_denied matched, gravity, literals]
    cases (reports.map (·.literal)).any (isDenied settings) <;>
      simp [Outcome.nothing, Status.exitCode]
  · rename_i unscanned
    cases checked
    exact fail_gravity (literalsOf_unscanned read (analyze_eq_scan_iff.mp unscanned))
  · cases checked
  · rename_i malformed
    obtain ⟨tokens, scanned, token, among, unparsed⟩ := exists_unparsed malformed
    cases checked
    exact fail_gravity (literalsOf_unparsed read scanned among unparsed)
  · cases checked

/-- A check of a file that does not crash leaves the status that the file calls for, and prints
nothing where it fails. -/
theorem checkFile_gravity [Platform] {path : Path} {entry : Entry} {outcome : Outcome}
    (checked : checkFile settings .nothing path entry = .ok outcome) :
    outcome.status.exitCode = gravity settings entry ∧
      (literalsOf entry = none → outcome.out = []) := by
  unfold checkFile at checked
  split at checked
  · rename_i read
    exact checkSource_gravity read checked
  · rename_i unread
    cases checked
    exact fail_gravity (literalsOf_unread unread)
  · rename_i unread
    cases checked
    exact fail_gravity (literalsOf_unread unread)
  · cases checked

end

/-! ## One run after another -/

namespace Run

variable {first second : Run} {status : Status} {path : Path} {files before after : List Path}

/-- The run over files, whichever the settings have. -/
def onFiles [Platform] (look : Path → Entry) (settings : Settings) (files : List Path) : Run :=
  ofSettings look { settings with files }

/-- A run and then another, unless it ends early. -/
def followedBy (first second : Run) : Run :=
  match first.ending with
  | .checked earlier =>
    { out := first.out ++ second.out
      err := first.err ++ second.err
      ending :=
        match second.ending with
        | .checked later => .checked (earlier.graver later)
        | ending => ending }
  | _ => first

theorem onFiles_of_checked [Platform] {outcome : Outcome}
    (checked : checkFiles settings look .nothing files = (outcome, none)) :
    onFiles look settings files = ⟨outcome.out, outcome.err, .checked outcome.status⟩ := by
  simp only [onFiles, ofSettings, checkFiles_files, checked]

theorem onFiles_of_crashed [Platform] {outcome : Outcome} {crash : Crash}
    (crashed : checkFiles settings look .nothing files = (outcome, some crash)) :
    onFiles look settings files = ⟨outcome.out, outcome.err, .crashed crash⟩ := by
  simp only [onFiles, ofSettings, checkFiles_files, crashed]

/-- A run over files and then others is the one run and then the other. -/
theorem onFiles_append [Platform] :
    onFiles look settings (before ++ after) =
      (onFiles look settings before).followedBy (onFiles look settings after) := by
  have whole : checkFiles settings look .nothing (before ++ after) = _ := checkFiles_append
  rcases first : checkFiles settings look .nothing before with ⟨earlier, _ | crash⟩
  · -- The checks behind add to what is there what they add to nothing.
    have behind : checkFiles settings look (earlier.append .nothing) after = _ := checkFiles_from
    rw [Outcome.append_nothing] at behind
    simp only [first, behind] at whole
    rw [onFiles_of_checked first]
    rcases second : checkFiles settings look .nothing after with ⟨later, _ | crash⟩
    · rw [second] at whole
      rw [onFiles_of_checked whole, onFiles_of_checked second]
      rfl
    · rw [second] at whole
      rw [onFiles_of_crashed whole, onFiles_of_crashed second]
      rfl
  · rw [first] at whole
    rw [onFiles_of_crashed whole, onFiles_of_crashed first]
    rfl

theorem followedBy_checked_iff : (first.followedBy second).ending = .checked status ↔
    ∃ earlier later, first.ending = .checked earlier ∧ second.ending = .checked later ∧
      status = earlier.graver later := by
  obtain ⟨out, err, ending⟩ := first
  obtain ⟨out', err', ending'⟩ := second
  cases ending <;> cases ending' <;> simp [followedBy, eq_comm]

theorem onFiles_cons [Platform] : onFiles look settings (path :: files) =
    (onFiles look settings [path]).followedBy (onFiles look settings files) :=
  @onFiles_append look settings [path] files _

/-- A run over one file that returns ends with the exit code that the file calls for, and prints
nothing where the file fails. -/
theorem single_gravity [Platform] (returned : (onFiles look settings [path]).ending = .checked status) :
    status.exitCode = gravity settings (look path) ∧
      (literalsOf (look path) = none → (onFiles look settings [path]).out = []) := by
  cases checked : checkFile settings .nothing path (look path) with
  | error crash =>
    rw [onFiles_of_crashed (by rw [checkFiles, checked])] at returned
    cases returned
  | ok outcome =>
    have single : onFiles look settings [path] =
        ⟨outcome.out, outcome.err, .checked outcome.status⟩ :=
      onFiles_of_checked (by rw [checkFiles, checked]; rfl)
    rw [single] at returned ⊢
    cases returned
    exact checkFile_gravity checked

/-- A run returns exactly if it does on each file alone. -/
theorem onFiles_returns_iff [Platform] :
    (∃ status, (onFiles look settings files).ending = .checked status) ↔
    ∀ path ∈ files, ∃ status, (onFiles look settings [path]).ending = .checked status := by
  induction files with
  | nil => exact ⟨fun _ _ among => absurd among List.not_mem_nil, fun _ => ⟨.passed, rfl⟩⟩
  | cons path files ih =>
    rw [onFiles_cons, List.forall_mem_cons, ← ih]
    simp only [followedBy_checked_iff]
    constructor
    · rintro ⟨-, own, others, alone, behind, rfl⟩
      exact ⟨⟨own, alone⟩, others, behind⟩
    · rintro ⟨⟨own, alone⟩, others, behind⟩
      exact ⟨_, own, others, alone, behind, rfl⟩

theorem returns_of_subset [Platform] (returned : (onFiles look settings files).ending = .checked status)
    (chosen : List Path) (among : chosen ⊆ files) :
    ∃ status, (onFiles look settings chosen).ending = .checked status :=
  onFiles_returns_iff.mpr fun path member =>
    onFiles_returns_iff.mp ⟨status, returned⟩ path (among member)

/-- What a run that returns prints is what it prints on each file alone, and it is as grave as the
gravest file. -/
theorem onFiles_of_alone [Platform]
    (returned : (onFiles look settings files).ending = .checked status) :
    (onFiles look settings files).out =
        files.flatMap (fun path => (onFiles look settings [path]).out) ∧
      (onFiles look settings files).err =
        files.flatMap (fun path => (onFiles look settings [path]).err) ∧
      status.exitCode = (files.map fun path => gravity settings (look path)).foldr max 0 := by
  induction files generalizing status with
  | nil =>
    cases returned
    exact ⟨rfl, rfl, rfl⟩
  | cons path files ih =>
    rw [onFiles_cons] at returned ⊢
    obtain ⟨own, others, alone, behind, rfl⟩ := followedBy_checked_iff.mp returned
    obtain ⟨out, err, code⟩ := ih behind
    rw [followedBy, alone, behind, out, err, Status.exitCode_graver, (single_gravity alone).1, code]
    exact ⟨rfl, rfl, rfl⟩

/-- A run over files that returns does so on each file alone, and prints what it prints on each, in
order. A file that cannot be read, decoded, scanned or taken apart adds nothing to the output, and takes
nothing from what is printed on the files around it. The exit code is the greatest that a file calls
for, so it is the same for every order of the files. -/
theorem onFiles_combines [Platform]
    (returned : (onFiles look settings files).ending = .checked status) :
    (∀ path ∈ files, ∃ own, (onFiles look settings [path]).ending = .checked own) ∧
    (onFiles look settings files).out =
      files.flatMap (fun path => (onFiles look settings [path]).out) ∧
    (onFiles look settings files).err =
      files.flatMap (fun path => (onFiles look settings [path]).err) ∧
    (∀ before path after, files = before ++ path :: after → literalsOf (look path) = none →
      (onFiles look settings [path]).out = [] ∧
      (onFiles look settings files).out = (onFiles look settings (before ++ after)).out ∧
      (onFiles look settings files).err = (onFiles look settings before).err ++
        (onFiles look settings [path]).err ++ (onFiles look settings after).err) ∧
    (onFiles look settings files).ending.exitCode =
      (files.map fun path => gravity settings (look path)).foldr max 0 ∧
    ∀ others, others.Perm files → (onFiles look settings others).ending = .checked status := by
  obtain ⟨out, err, code⟩ := onFiles_of_alone returned
  refine ⟨onFiles_returns_iff.mp ⟨status, returned⟩, out, err, ?_, ?_, ?_⟩
  · rintro before path after rfl fails
    obtain ⟨own, alone⟩ := returns_of_subset returned [path] (by simp)
    obtain ⟨earlier, front⟩ := returns_of_subset returned before (by simp)
    obtain ⟨later, behind⟩ := returns_of_subset returned after (by simp)
    obtain ⟨around, without⟩ := returns_of_subset returned (before ++ after) (by simp)
    have silent := (single_gravity alone).2 fails
    refine ⟨silent, ?_, ?_⟩
    · rw [out, (onFiles_of_alone without).1, List.flatMap_append, List.flatMap_append,
        List.flatMap_cons, silent, List.nil_append]
    · rw [err, (onFiles_of_alone front).2.1, (onFiles_of_alone behind).2.1, List.flatMap_append,
        List.flatMap_cons, List.append_assoc]
  · rw [returned]
    exact code
  · intro others reordered
    obtain ⟨status', returned'⟩ := returns_of_subset returned others reordered.subset
    have same : status'.exitCode = status.exitCode := by
      rw [(onFiles_of_alone returned').2.2, code]
      exact (reordered.map _).foldr_eq' (fun first _ second _ => Nat.max_left_comm second first) 0
    rw [returned', Status.exitCode_injective same]

/-- A file with a leading zero, which is denied, and a file that is not there: the run fails in either
order, and what is printed on the file that is there stays. -/
theorem onFiles_combines_denied_missing :
    let look := Tree.look [([['a']], .file [48, 49])]
    let settings : Settings := ⟨[], .default, [(.zeroPrefixed, .deny)], false⟩
    let denied : Path := ⟨[], [['a']]⟩
    let missing : Path := ⟨[], [['b']]⟩
    (onFiles look settings [denied, missing]).ending = .checked .failed ∧
      (onFiles look settings [missing, denied]).ending = .checked .failed ∧
      (onFiles look settings [denied, missing]).out = (onFiles look settings [denied]).out ∧
      gravity settings (look denied) = 1 ∧ gravity settings (look missing) = 2 := by
  intro look settings denied missing
  have returned : (onFiles look settings [denied, missing]).ending = .checked .failed := by
    decide +kernel
  obtain ⟨-, -, -, without, -, reordered⟩ := onFiles_combines returned
  refine ⟨returned, reordered _ (.swap _ _ _), ?_, by decide +kernel, by decide +kernel⟩
  exact (without [denied] missing [] rfl (by decide +kernel)).2.1

end Run
end NumeralStyle.CommandLine
