import NumeralStyle.Editor.QuickFix
import NumeralStyle.Proofs.Check.Replacing
import NumeralStyle.Proofs.Check.Reported
import NumeralStyle.Proofs.Editor.Places
import NumeralStyle.Proofs.Source.Resumed

/-! Applying quick fixes to a source text. An editor is offered a fix for each suggestion, and may make
the edits of any of them all at once, one for each literal at most and in whatever order it has them.
The numbers of the text that comes out are those of the text before, the literals that were fixed as
their fixes spell them and all others unchanged (`ofText_applyAll`). -/
namespace NumeralStyle
open Text

namespace Editor
namespace QuickFix

variable {widths : Widths} {source document : Text} {tokens : List Token} {reports : List Report}

/-! ## The fixes that are offered -/

/-- A fix for each suggestion of a finding. -/
def ofFinding (document : Text) (finding : Finding) : List QuickFix :=
  finding.suggestions.map fun spelling => ⟨document, .ofFinding finding, spelling⟩

theorem mapM_map_eq_ok {α β γ ε : Type} {made : α → β} {f : β → Except ε γ} {g : α → γ}
    (each : ∀ item, f (made item) = .ok (g item)) (items : List α) :
    (items.map made).mapM f = .ok (items.map g) := by
  induction items with
  | nil => rfl
  | cons item items ih =>
    rw [List.map_cons, List.mapM_cons, each item, ih]
    rfl

theorem ofDiagnostic_ofFinding (document : Text) (finding : Finding) :
    ofDiagnostic document (.ofFinding finding) = .ok (ofFinding document finding) := by
  have spelled : spellings (.ofFinding finding) = .ok finding.suggestions := by
    by_cases none : finding.suggestions = []
    · simp only [spellings, Diagnostic.ofFinding, none, if_true]
      rfl
    · have each (spelling : Text) : spellingOf (.text spelling) = .ok (id spelling) := rfl
      have all := mapM_map_eq_ok each finding.suggestions
      have filled : (Value.list (finding.suggestions.map .text)).isNothing = false := by
        simpa [Value.isNothing] using none
      rw [List.map_id] at all
      simp only [spellings, Diagnostic.ofFinding, none, if_false, filled, Bool.not_false, and_self,
        if_true, payloadElements]
      exact all
  rw [ofDiagnostic, spelled]
  rfl

/-- The fixes for the findings of a source text are one for each suggestion. -/
theorem ofDiagnostics_ofFinding (document : Text) (findings : List Finding) :
    ofDiagnostics document (findings.map .ofFinding) =
      .ok (findings.flatMap (ofFinding document)) := by
  rw [ofDiagnostics, mapM_map_eq_ok (ofDiagnostic_ofFinding document) findings]
  rfl

/-- The fixes that are offered for reports. -/
def offered (document : Text) (reports : List Report) : List QuickFix :=
  (findingsOf reports).flatMap (ofFinding document)

theorem mem_offered {fix : QuickFix} : fix ∈ offered document reports ↔
    ∃ report ∈ reports, ∃ finding ∈ report.findings, ∃ spelling ∈ finding.suggestions,
      fix = ⟨document, .ofFinding finding, spelling⟩ := by
  simp only [offered, findingsOf, ofFinding, List.mem_flatMap, List.mem_map, eq_comm (a := fix)]
  constructor
  · rintro ⟨finding, ⟨report, among, found⟩, spelling, suggested, same⟩
    exact ⟨report, among, finding, found, spelling, suggested, same⟩
  · rintro ⟨report, among, finding, found, spelling, suggested, same⟩
    exact ⟨finding, ⟨report, among, found⟩, spelling, suggested, same⟩

/-! ## Making the edits -/

/-- The edit of a source text that a fix makes. -/
def edit (source : Text) (fix : QuickFix) : Edit :=
  ⟨fix.range.start.offset source, fix.range.stop.offset source, fix.spelling⟩

/-- A source text with the edits of fixes made in it, all at once. -/
def applyAll (fixes : List QuickFix) (source : Text) : Text :=
  splice 0 ((fixes.map (edit source)).mergeSort fun first second => first.start ≤ second.start) source

/-- The spelling of the fix that is chosen for the report on a token. -/
def chosenSpelling [Platform] (widths : Widths) (choice : Report → Option QuickFix) (token : Token) :
    Option Text :=
  match Report.ofToken widths token with
  | .ok report => (choice report).map (·.spelling)
  | .error _ => none

section
variable {choice : Report → Option QuickFix}

/-- What is chosen for a token is chosen for its report. -/
theorem chosenSpelling_of_ok [Platform] {token : Token} {report : Report}
    (reported : Report.ofToken widths token = .ok report) :
    chosenSpelling widths choice token = (choice report).map (·.spelling) := by
  rw [chosenSpelling, reported]

/-- The ranges of reports are those of their tokens. -/
theorem ranges_of_matched [Platform] (matched : tokens.map (Report.ofToken widths) = reports.map .ok) :
    tokens.map (fun token => Range.ofSpan token.span) =
      reports.map fun report => Range.ofSpan report.span := by
  refine Report.map_of_matched matched fun token _ report _ reported => ?_
  rw [Report.span_eq reported]

/-- Fixes that have the ranges of their reports make the edits for the tokens. -/
theorem edits_of_matched [Platform] (scanned : Scanned (Cursor.start source) tokens)
    (matched : tokens.map (Report.ofToken widths) = reports.map .ok)
    (placed : ∀ report ∈ reports, ∀ fix ∈ choice report, fix.range = Range.ofSpan report.span) :
    (reports.filterMap choice).map (edit source) = editsOf (chosenSpelling widths choice) tokens := by
  rw [List.map_filterMap, editsOf]
  refine (Report.filterMap_of_matched matched fun token emitted report among reported => ?_).symm
  rw [chosenSpelling_of_ok reported]
  cases chosen : choice report with
  | none => rfl
  | some fix =>
    obtain ⟨start, stop⟩ := offset_ofSpan scanned emitted
    have range := placed report among fix chosen
    rw [Report.span_eq reported] at range
    simp only [Option.map_some, edit, Token.edit, range, start, stop]

/-- The edits for tokens start one behind the other. -/
theorem edits_increase {chosen : Token → Option Text}
    (scanned : Scanned (Cursor.start source) tokens) :
    (editsOf chosen tokens).Pairwise fun first second => first.start < second.start := by
  refine List.pairwise_filterMap.mpr ?_
  apply scanned.starts_increase.imp
  intro one other before first made second made'
  obtain ⟨spelling, -, rfl⟩ := Option.map_eq_some_iff.mp made
  obtain ⟨spelling', -, rfl⟩ := Option.map_eq_some_iff.mp made'
  exact before

/-- What an offered fix spells for the range of a report can stand in the place of its token. -/
theorem replaces_of_offered [Platform] {token : Token} {report : Report} {fix : QuickFix}
    (ranges : (reports.map fun report => Range.ofSpan report.span).Nodup)
    (matched : tokens.map (Report.ofToken widths) = reports.map .ok)
    (among : report ∈ reports) (reported : Report.ofToken widths token = .ok report)
    (known : report.literal.unrecognizedSuffix = none) (fixes : fix ∈ offered document reports)
    (placed : fix.range = Range.ofSpan report.span) : Replaces token.raw fix.spelling := by
  obtain ⟨other, member, finding, found, spelling, suggested, rfl⟩ := mem_offered.mp fixes
  obtain ⟨token', -, reported'⟩ := Report.exists_token matched member
  have range : Range.ofSpan other.span = Range.ofSpan report.span := by
    rw [← Report.span_of_mem reported' found]
    exact placed
  obtain rfl := List.inj_on_of_nodup_map ranges member among range
  exact Report.replaces_of_suggested reported known found suggested

/-- Applying quick fixes of a source text rewrites their literals and nothing else. Every suggestion
of every finding is offered as a fix, with the range of its literal, and no two literals have the
same range. Whichever fixes are chosen, one at most for each literal, and in whatever order they are
applied, the text with all of their edits is scanned: its numbers are those of the source text in the
same order, the chosen literals as the fixes spell them and all others as they were. -/
theorem ofText_applyAll [Platform] (analyzed : analyze widths source = .ok reports) (document : Text) :
    ∃ tokens diagnostics fixes,
      Scan.ofText source = .ok tokens ∧
      tokens.map (·.raw) = reports.map (·.literal.raw) ∧
      (reports.map fun report => Range.ofSpan report.span).Nodup ∧
      Diagnostic.ofSource widths source = .ok diagnostics ∧
      ofDiagnostics document diagnostics = .ok fixes ∧
      (∀ report ∈ reports, ∀ finding ∈ report.findings, ∀ spelling ∈ finding.suggestions,
        ∃ fix ∈ fixes, fix.range = Range.ofSpan report.span ∧ fix.spelling = spelling) ∧
      ∀ choice : Report → Option QuickFix,
        (∀ report ∈ reports, ∀ fix ∈ choice report, fix ∈ fixes ∧
          fix.range = Range.ofSpan report.span ∧ report.literal.unrecognizedSuffix = none) →
        ∀ chosen : List QuickFix, chosen.Perm (reports.filterMap choice) →
          ∃ found, Scan.ofText (applyAll chosen source) = .ok found ∧
            found.map (·.raw) = reports.map fun report =>
              ((choice report).map (·.spelling)).getD report.literal.raw := by
  obtain ⟨tokens, scan, matched⟩ := analyze_eq_ok_iff.mp analyzed
  have scanned := Scan.ofText_eq_ok_iff.mp scan
  have ranges := ranges_nodup scanned
  rw [ranges_of_matched matched] at ranges
  have diagnosed : Diagnostic.ofSource widths source =
      .ok ((findingsOf reports).map .ofFinding) := by rw [Diagnostic.ofSource, analyzed]
  have raws : tokens.map (·.raw) = reports.map (·.literal.raw) :=
    Report.map_of_matched matched fun _ _ _ _ reported => Report.raw_eq reported
  refine ⟨tokens, _, _, scan, raws, ranges, diagnosed, ofDiagnostics_ofFinding document _, ?_, ?_⟩
  · intro report among finding found spelling suggested
    refine ⟨_, mem_offered.mpr ⟨report, among, finding, found, spelling, suggested, rfl⟩, ?_, rfl⟩
    obtain ⟨token, -, reported⟩ := Report.exists_token matched among
    rw [← Report.span_of_mem reported found]
    rfl
  · intro choice valid chosen perm
    have edits := edits_of_matched scanned matched fun report among fix picked =>
      (valid report among fix picked).2.1
    have sorted := mergeSort_eq (edits ▸ perm.map (edit source)) (edits_increase scanned)
    have replaces : ∀ token ∈ tokens, ∀ spelling ∈ chosenSpelling widths choice token,
        Replaces token.raw spelling := by
      intro token emitted spelling picked
      obtain ⟨report, among, reported⟩ := Report.exists_report matched emitted
      rw [chosenSpelling_of_ok reported] at picked
      obtain ⟨fix, here, rfl⟩ := Option.map_eq_some_iff.mp picked
      obtain ⟨fixes, placed, known⟩ := valid report among fix here
      exact replaces_of_offered ranges matched among reported known fixes placed
    obtain ⟨found, scan', raws⟩ := Scan.ofText_splice scan replaces
    refine ⟨found, ?_, raws.trans (Report.map_of_matched matched fun token _ report _ reported => ?_)⟩
    · rw [applyAll, sorted]
      exact scan'
    · rw [respelled, chosenSpelling_of_ok reported, Report.raw_eq reported]

/-- Leading zeros in two literals. The first is fixed as an octal number, the second loses its zero, and
the edit of the second is made first. -/
theorem ofText_applyAll_leading_zeros :
    ∃ reports diagnostics fixes one other,
      analyze .default ['0', '7', ',', '0', '9'] = .ok reports ∧
      Diagnostic.ofSource .default ['0', '7', ',', '0', '9'] = .ok diagnostics ∧
      ofDiagnostics [] diagnostics = .ok fixes ∧
      one ∈ fixes ∧ one.spelling = ['0', 'o', '7'] ∧ other ∈ fixes ∧ other.spelling = ['9'] ∧
      applyAll [other, one] ['0', '7', ',', '0', '9'] = ['0', 'o', '7', ',', '9'] ∧
      ∃ found, Scan.ofText (applyAll [other, one] ['0', '7', ',', '0', '9']) = .ok found ∧
        found.map (·.raw) = [['0', 'o', '7'], ['9']] := by
  have scanned : Scan.ofText ['0', '7', ',', '0', '9'] =
      .ok [⟨['0', '7'], ⟨⟨1, 1, 0⟩, ⟨1, 3, 2⟩⟩⟩, ⟨['0', '9'], ⟨⟨1, 4, 3⟩, ⟨1, 6, 5⟩⟩⟩] := by
    obtain ⟨last, ran⟩ : ∃ last, (Scan.start ['0', '7', ',', '0', '9']).run =
        (⟨last, [⟨['0', '9'], ⟨⟨1, 4, 3⟩, ⟨1, 6, 5⟩⟩⟩, ⟨['0', '7'], ⟨⟨1, 1, 0⟩, ⟨1, 3, 2⟩⟩⟩]⟩,
          none) := ⟨_, Scan.run_eq_of_runWithin (Nat.le_refl 5) rfl⟩
    exact Scan.ofText_of_run ran
  obtain ⟨first, made, known, span, finding, found, suggested⟩ : ∃ report,
      Report.ofToken .default ⟨['0', '7'], ⟨⟨1, 1, 0⟩, ⟨1, 3, 2⟩⟩⟩ = .ok report ∧
      report.literal.unrecognizedSuffix = none ∧ report.span = ⟨⟨1, 1, 0⟩, ⟨1, 3, 2⟩⟩ ∧
      ∃ finding ∈ report.findings, ['0', 'o', '7'] ∈ finding.suggestions :=
    ⟨_, rfl, rfl, rfl, _, List.mem_cons_self .., List.mem_cons_of_mem _ (List.mem_cons_self ..)⟩
  obtain ⟨second, made', known', span', finding', found', suggested'⟩ : ∃ report,
      Report.ofToken .default ⟨['0', '9'], ⟨⟨1, 4, 3⟩, ⟨1, 6, 5⟩⟩⟩ = .ok report ∧
      report.literal.unrecognizedSuffix = none ∧ report.span = ⟨⟨1, 4, 3⟩, ⟨1, 6, 5⟩⟩ ∧
      ∃ finding ∈ report.findings, ['9'] ∈ finding.suggestions :=
    ⟨_, rfl, rfl, rfl, _, List.mem_cons_self .., List.mem_cons_self ..⟩
  have different : second ≠ first := by
    rintro rfl
    rw [span] at span'
    cases span'
  have analyzed : analyze .default ['0', '7', ',', '0', '9'] = .ok [first, second] :=
    analyze_eq_ok_iff.mpr ⟨_, scanned, by simp [made, made']⟩
  obtain ⟨-, diagnostics, fixes, -, -, -, diagnosed, offers, offer, rewrites⟩ :=
    ofText_applyAll analyzed []
  obtain ⟨one, offered, range, spelling⟩ :=
    offer first List.mem_cons_self finding found ['0', 'o', '7'] suggested
  obtain ⟨other, offered', range', spelling'⟩ :=
    offer second (List.mem_cons_of_mem _ List.mem_cons_self) finding' found' ['9'] suggested'
  let choice (report : Report) : Option QuickFix := some (if report = first then one else other)
  obtain ⟨numbers, scan, raws⟩ := rewrites choice
    (by
      intro report among fix chosen
      obtain rfl := Option.some.inj chosen
      rcases List.mem_pair.mp among with rfl | rfl
      · rw [if_pos rfl]
        exact ⟨offered, range, known⟩
      · rw [if_neg different]
        exact ⟨offered', range', known'⟩)
    [other, one] (by simpa [choice, different] using List.Perm.swap one other [])
  refine ⟨_, diagnostics, fixes, one, other, analyzed, diagnosed, offers, offered, spelling, offered',
    spelling', ?_, numbers, scan, ?_⟩
  · have edits : [other, one].map (edit ['0', '7', ',', '0', '9']) =
        [⟨3, 5, ['9']⟩, ⟨0, 2, ['0', 'o', '7']⟩] := by
      simp only [List.map_cons, List.map_nil, edit, range, range', span, span', spelling, spelling']
      rfl
    rw [applyAll, edits, mergeSort_eq (List.Perm.swap ..) (by simp)]
    rfl
  · rw [raws]
    simp [choice, different, spelling, spelling']

end

end QuickFix
end Editor
end NumeralStyle
