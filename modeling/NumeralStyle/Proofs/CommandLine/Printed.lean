import NumeralStyle.Proofs.CommandLine.Combined

/-! What a run prints on its files. On a file that has an analysis, it prints each finding that is not
allowed, in order and with a blank line behind it, and then one line that counts the errors and the
warnings among all findings; if every finding is allowed it prints nothing (`printed`). On a file that
fails it prints nothing either. The output of a run is what it prints on each of its files up to the
first that crashes it (`Run.ofSettings_out_cases`), so every finding that is not allowed is in it
(`Run.shown_infix_out`). -/
namespace NumeralStyle

section

variable {levels : Levels} {findings : List Finding} {source file : Text}

/-- The number of findings of a level. -/
def countAt (levels : Levels) (findings : List Finding) (level : Level) : Nat :=
  findings.countP fun finding => levels.levelOf finding.kind == level

/-- The findings that are not allowed. -/
def mindedOf (levels : Levels) (findings : List Finding) : List Finding :=
  findings.filter fun finding => levels.levelOf finding.kind != .allow

/-- What is printed on the findings of a file. -/
def printedFindings (levels : Levels) (findings : List Finding) (source file : Text) : Text :=
  if ∀ finding ∈ findings, levels.levelOf finding.kind = .allow then []
  else
    (mindedOf levels findings).flatMap (fun finding =>
        finding.shown source file (levels.levelOf finding.kind) ++ ['\n', '\n']) ++
      summary file (countAt levels findings .deny) (countAt levels findings .warn) ++ ['\n']

theorem intercalate_concat (between last : Text) (pieces : List Text) :
    List.intercalate between (pieces ++ [last]) = pieces.flatMap (· ++ between) ++ last := by
  induction pieces with
  | nil => simp
  | cons piece pieces ih =>
    obtain ⟨next, others, split⟩ : ∃ next others, pieces ++ [last] = next :: others := by
      cases pieces <;> simp
    rw [split] at ih
    rw [List.cons_append, split, List.intercalate_cons_cons, ih]
    simp

theorem mindedOf_eq_nil_iff :
    mindedOf levels findings = [] ↔ ∀ finding ∈ findings, levels.levelOf finding.kind = .allow := by
  simp [mindedOf, List.filter_eq_nil_iff]

/-- A finding that is not allowed is denied or warned of. -/
theorem length_mindedOf (levels : Levels) (findings : List Finding) :
    (mindedOf levels findings).length =
      countAt levels findings .deny + countAt levels findings .warn := by
  rw [mindedOf, ← List.countP_eq_length_filter, countAt, countAt]
  induction findings with
  | nil => rfl
  | cons finding findings ih =>
    rw [List.countP_cons, List.countP_cons, List.countP_cons, ih]
    cases levels.levelOf finding.kind <;> simp +arith

theorem countAt_mindedOf (levels : Levels) (findings : List Finding) {level : Level}
    (minded : level ≠ .allow) :
    countAt levels (mindedOf levels findings) level = countAt levels findings level := by
  rw [countAt, mindedOf, List.countP_filter, countAt]
  refine List.countP_congr fun finding _ => ?_
  simp only [Bool.and_eq_true, beq_iff_eq, bne_iff_ne, and_iff_left_iff_imp]
  rintro rfl
  exact minded

/-- The report on findings prints those that are not allowed, and counts them. -/
theorem showFindings_eq (levels : Levels) (findings : List Finding) (source file : Text) :
    showFindings levels findings source file = printedFindings levels findings source file := by
  have reported : (findings.map fun finding => (finding, levels.levelOf finding.kind)).filter
        (fun entry => entry.2 != .allow) =
      (mindedOf levels findings).map fun finding => (finding, levels.levelOf finding.kind) :=
    List.filter_map
  unfold showFindings showReport printedFindings
  rw [reported]
  by_cases allowed : mindedOf levels findings = []
  · rw [allowed, if_pos (mindedOf_eq_nil_iff.mp allowed)]
    rfl
  · rw [if_neg (mt mindedOf_eq_nil_iff.mpr allowed)]
    have reports : ¬ ((mindedOf levels findings).map fun finding =>
        (finding, levels.levelOf finding.kind)).isEmpty := by simpa using allowed
    simp only [if_neg reports, List.map_map, List.countP_map, List.length_map, intercalate_concat,
      List.flatMap_map]
    change _ ++ summary file (countAt levels (mindedOf levels findings) .deny)
      ((mindedOf levels findings).length - countAt levels (mindedOf levels findings) .deny) ++
        ['\n'] = _
    rw [countAt_mindedOf levels findings (by decide), length_mindedOf, Nat.add_sub_cancel_left]
    rfl

theorem printedFindings_eq_nil_iff : printedFindings levels findings source file = [] ↔
    ∀ finding ∈ findings, levels.levelOf finding.kind = .allow := by
  unfold printedFindings
  split <;> simp_all

/-- A finding that is not allowed is in what is printed, under its level. -/
theorem shown_infix_printedFindings {finding : Finding} (found : finding ∈ findings)
    (minded : levels.levelOf finding.kind ≠ .allow) :
    finding.shown source file (levels.levelOf finding.kind) <:+:
      printedFindings levels findings source file := by
  have among : finding ∈ mindedOf levels findings :=
    List.mem_filter.mpr ⟨found, bne_iff_ne.mpr minded⟩
  rw [printedFindings, if_neg fun allowed => minded (allowed finding found)]
  have block := List.infix_of_mem_flatten (List.mem_map_of_mem (f := fun finding : Finding =>
    finding.shown source file (levels.levelOf finding.kind) ++ ['\n', '\n']) among)
  refine (List.prefix_append _ ['\n', '\n']).isInfix.trans (block.trans ?_)
  rw [List.append_assoc]
  exact (List.prefix_append _ _).isInfix

/-- Findings that are allowed leave no trace. -/
theorem printedFindings_mindedOf (levels : Levels) (findings : List Finding) (source file : Text) :
    printedFindings levels (mindedOf levels findings) source file =
      printedFindings levels findings source file := by
  have again : mindedOf levels (mindedOf levels findings) = mindedOf levels findings := by
    simp [mindedOf]
  simp only [printedFindings, ← mindedOf_eq_nil_iff, again,
    countAt_mindedOf levels findings (show Level.deny ≠ .allow by decide),
    countAt_mindedOf levels findings (show Level.warn ≠ .allow by decide)]

end

namespace CommandLine

variable {look : Path → Entry} {settings : Settings}

section
variable [Platform]

/-- What is printed on a file, by what its path leads to. -/
def printed (settings : Settings) (path : Path) (entry : Entry) : Text :=
  match Files.source entry with
  | .error _ => []
  | .ok source =>
    match analyze settings.widths source with
    | .error _ => []
    | .ok reports =>
      printedFindings settings.levels (reports.flatMap (·.findings)) source path.text

theorem checkSource_out {path : Path} {sofar outcome : Outcome} {source : Text}
    {entry : Entry} (read : Files.source entry = .ok source)
    (checked : checkSource settings path.text sofar source = .ok outcome) :
    outcome.out = sofar.out ++ printed settings path entry := by
  unfold checkSource at checked
  cases analyzed : analyze settings.widths source with
  | ok reports =>
    rw [analyzed] at checked
    cases checked
    simp only [printed, read, analyzed, checkReports, showFindings_eq]
    rfl
  | error fault =>
    have nothing : printed settings path entry = [] := by simp only [printed, read, analyzed]
    rw [analyzed] at checked
    rw [nothing, List.append_nil]
    rcases fault with (_ | _) | (_ | _) <;> cases checked <;> rfl

/-- A check of a file adds to the output what is printed on the file. -/
theorem checkFile_out {path : Path} {entry : Entry} {sofar outcome : Outcome}
    (checked : checkFile settings sofar path entry = .ok outcome) :
    outcome.out = sofar.out ++ printed settings path entry := by
  unfold checkFile at checked
  cases read : Files.source entry with
  | ok source =>
    rw [read] at checked
    exact checkSource_out read checked
  | error fault =>
    have nothing : printed settings path entry = [] := by simp only [printed, read]
    rw [read] at checked
    rw [nothing, List.append_nil]
    cases fault <;> cases checked <;> rfl

theorem checkFile_crashes {path : Path} {entry : Entry} {sofar : Outcome} {crash : Crash}
    (crashes : checkFile settings sofar path entry = .error crash) :
    checkFile settings .nothing path entry = .error crash := by
  rw [← sofar.append_nothing, checkFile_from] at crashes
  cases checked : checkFile settings .nothing path entry with
  | error other => simpa [checked, Except.map] using crashes
  | ok outcome => simp [checked, Except.map] at crashes

/-- Checks of files add to the output what is printed on each, up to the first that crashes. -/
theorem checkFiles_out (settings : Settings) (look : Path → Entry) (sofar : Outcome)
    (paths : List Path) :
    ∃ done left, paths = done ++ left ∧
      (checkFiles settings look sofar paths).1.out =
        sofar.out ++ done.flatMap (fun path => printed settings path (look path)) ∧
      ((checkFiles settings look sofar paths).2 = none ∧ left = [] ∨
        ∃ crash path rest, (checkFiles settings look sofar paths).2 = some crash ∧
          left = path :: rest ∧ checkFile settings .nothing path (look path) = .error crash) := by
  induction paths generalizing sofar with
  | nil => exact ⟨[], [], rfl, by simp [checkFiles], .inl ⟨rfl, rfl⟩⟩
  | cons path paths ih =>
    cases checked : checkFile settings sofar path (look path) with
    | error crash =>
      refine ⟨[], path :: paths, rfl, ?_, .inr ⟨crash, path, paths, ?_, rfl, checkFile_crashes checked⟩⟩
      · simp [checkFiles, checked]
      · simp [checkFiles, checked]
    | ok outcome =>
      obtain ⟨done, left, rfl, out, ends⟩ := ih outcome
      have next : checkFiles settings look sofar (path :: (done ++ left)) =
          checkFiles settings look outcome (done ++ left) := by rw [checkFiles, checked]
      refine ⟨path :: done, left, rfl, ?_, next ▸ ends⟩
      rw [next, out, checkFile_out checked, List.flatMap_cons, List.append_assoc]

namespace Run

variable {status : Status}

/-- The output of a run is what is printed on each of its files or, if it crashes, on those before the
file that crashes it. -/
theorem ofSettings_out_cases (look : Path → Entry) (settings : Settings) :
    (∃ status, (ofSettings look settings).ending = .checked status ∧
      (ofSettings look settings).out =
        settings.files.flatMap fun path => printed settings path (look path)) ∨
    ∃ crash before path after, (ofSettings look settings).ending = .crashed crash ∧
      settings.files = before ++ path :: after ∧
      checkFile settings .nothing path (look path) = .error crash ∧
      (ofSettings look settings).out =
        before.flatMap fun path => printed settings path (look path) := by
  obtain ⟨done, left, split, out, ends⟩ := checkFiles_out settings look .nothing settings.files
  rcases whole : checkFiles settings look .nothing settings.files with ⟨outcome, _ | crash⟩
  · have ran : ofSettings look settings = _ := onFiles_of_checked whole
    rw [whole] at out ends
    obtain ⟨-, rfl⟩ | ⟨_, _, _, never, -⟩ := ends
    · rw [ran, split, List.append_nil]
      exact .inl ⟨_, rfl, out⟩
    · cases never
  · have ran : ofSettings look settings = _ := onFiles_of_crashed whole
    rw [whole] at out ends
    obtain ⟨never, -⟩ | ⟨_, path, rest, same, rfl, crashes⟩ := ends
    · cases never
    · cases same
      rw [ran]
      exact .inr ⟨_, done, path, rest, rfl, split, crashes, out⟩

theorem ofSettings_out (returned : (ofSettings look settings).ending = .checked status) :
    (ofSettings look settings).out =
      settings.files.flatMap fun path => printed settings path (look path) := by
  obtain ⟨-, -, out⟩ | ⟨crash, -, -, -, crashed, -⟩ := ofSettings_out_cases look settings
  · exact out
  · rw [crashed] at returned
    cases returned

/-- A run that returns has printed every finding that is not allowed, on every file that has an
analysis. -/
theorem shown_infix_out (returned : (ofSettings look settings).ending = .checked status)
    {path : Path} (among : path ∈ settings.files) {source : Text}
    (read : Files.source (look path) = .ok source) {reports : List Report}
    (analyzed : analyze settings.widths source = .ok reports) {report : Report}
    (member : report ∈ reports) {finding : Finding} (found : finding ∈ report.findings)
    (minded : settings.levels.levelOf finding.kind ≠ .allow) :
    finding.shown source path.text (settings.levels.levelOf finding.kind) <:+:
      (ofSettings look settings).out := by
  have here : printed settings path (look path) =
      printedFindings settings.levels (reports.flatMap (·.findings)) source path.text := by
    simp only [printed, read, analyzed]
  rw [ofSettings_out returned]
  refine (shown_infix_printedFindings (List.mem_flatMap.mpr ⟨report, member, found⟩) minded).trans ?_
  rw [← here]
  exact List.infix_of_mem_flatten (List.mem_map_of_mem among)

end Run

end

end CommandLine
end NumeralStyle
