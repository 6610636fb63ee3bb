import NumeralStyle.Editor.Diagnostic
import NumeralStyle.Proofs.Check.Reported
import NumeralStyle.Proofs.Source.Resumed

/-! What an editor is told about a source text. A text at fault has one error, at the fault of its scan
or else at the first number that is no literal; any other has a warning for each finding, in the order of
their literals. Every range covers something of one line and nothing beyond it
(`Diagnostic.ofSource_shape`). -/
namespace NumeralStyle
open Text

/-! ## Where tokens and faults are -/

section

variable {source : Text} {tokens : List Token} {token : Token} {first second : Position}

/-- What is before a place of a text is before every later place too. -/
theorem take_toNat_append {earlier later : Int} (before : earlier ≤ later) (source : Text) :
    source.take later.toNat =
      source.take earlier.toNat ++ (source.take later.toNat).drop earlier.toNat := by
  have short : earlier.toNat ≤ later.toNat := by omega
  have front := List.take_append_drop earlier.toNat (source.take later.toNat)
  rw [List.take_take, Nat.min_eq_left short] at front
  exact front.symm

theorem Token.In.length_raw (within : token.In source) :
    token.span.stop.offset = token.span.start.offset + token.raw.length := by
  obtain ⟨c, starts, -⟩ := within.digit
  have filled := List.length_pos_iff.mpr (List.ne_nil_of_mem (List.mem_of_mem_head? starts))
  have size := congrArg List.length within.raw
  have stop := within.stop.offset
  have start := within.start.offset
  rw [List.length_drop, List.length_take] at size
  omega

/-- A token has part of its text in front of it, as much as its place says, and part behind it. -/
theorem Token.In.parts (within : token.In source) :
    ∃ front rest, source = front ++ token.raw ++ rest ∧ token.span.start.offset = front.length := by
  refine ⟨source.take token.span.start.offset.toNat, source.drop token.span.stop.offset.toNat, ?_, ?_⟩
  · have size := within.length_raw
    have before : token.span.start.offset ≤ token.span.stop.offset := by omega
    rw [within.raw, ← take_toNat_append before source, List.take_append_drop]
  · have inside := within.start.offset
    rw [List.length_take]
    omega

/-- A token lies between two places of one line. -/
theorem Token.In.columns (within : token.In source) :
    token.span.stop.line = token.span.start.line ∧
      token.span.stop.column = token.span.start.column + token.raw.length := by
  have size := within.length_raw
  have before : token.span.start.offset ≤ token.span.stop.offset := by omega
  have front := take_toNat_append before source
  rw [← within.raw] at front
  refine ⟨?_, ?_⟩
  · rw [within.stop.line, within.start.line, front, List.count_append,
      List.count_eq_zero.mpr within.line, Nat.add_zero]
  · rw [within.stop.column, within.start.column, front, column_append within.line]
    omega

namespace Scan

theorem goesOn_of_ofText (scanned : ofText source = .ok tokens) :
    ∃ last, Relation.ReflTransGen GoesOn (start source) last ∧ last.tokens = tokens := by
  unfold ofText at scanned
  split at scanned
  · rename_i last ran
    cases scanned
    exact ⟨last, (goesOn_of_run ran).1, rfl⟩
  · cases scanned

theorem underway_of_ofText (scanned : ofText source = .ok tokens) :
    ∃ last, Underway source last ∧ last.tokens = tokens := by
  obtain ⟨last, goes, found⟩ := goesOn_of_ofText scanned
  exact ⟨last, (Reached.start.goesOn goes).underway, found⟩

theorem in_of_ofText (scanned : ofText source = .ok tokens) : ∀ token ∈ tokens, token.In source := by
  obtain ⟨last, underway, rfl⟩ := underway_of_ofText scanned
  exact fun token member => underway.token token (List.mem_reverse.mp member)

theorem apart_of_ofText (scanned : ofText source = .ok tokens) :
    tokens.Pairwise fun first second => first.span.stop.offset < second.span.start.offset := by
  obtain ⟨last, underway, rfl⟩ := underway_of_ofText scanned
  exact List.pairwise_reverse.mpr underway.apart

/-- The fault of a scan is at a character that is no line feed. -/
theorem Underway.exists_opener {scan next : Scan} {error : ScanError} (underway : Underway source scan)
    (stopped : scan.step = (next, some (.fault error))) :
    ∃ c rest, source.drop error.position.offset.toNat = c :: rest ∧ c ≠ '\n' := by
  cases found : scan.lexeme with
  | skip length => simp [Scan.step, found] at stopped
  | number length => simp [Scan.step, found] at stopped
  | cutEscape length => simp [Scan.step, found] at stopped
  | broken fault start length =>
    simp only [Scan.step, found, Prod.mk.injEq, Option.some.injEq, Stop.fault.injEq] at stopped
    obtain ⟨-, rfl⟩ := stopped
    obtain ⟨c, opens, sameLine⟩ := (Lexeme.brokenIn_of_read found).opener
    have place := underway.within.advance start
    obtain ⟨inside, here⟩ := List.getElem?_eq_some_iff.mp opens
    refine ⟨c, scan.cursor.ahead.drop (start + 1), ?_, sameLine⟩
    simp only [Cursor.position, Int.toNat_natCast]
    rw [← place.whole, place.offset, ← List.length_reverse, List.drop_left, Cursor.ahead_advance,
      List.drop_eq_getElem_cons inside, here]

/-- The fault of a text is at a place of it, and at a character that is no line feed. -/
theorem fault_of_ofText {error : ScanError} (failed : ofText source = .error (.fault error)) :
    error.position.In source ∧
      ∃ c rest, source.drop error.position.offset.toNat = c :: rest ∧ c ≠ '\n' := by
  have stopped := ofText_eq_error_iff.mp failed
  obtain ⟨before, goes, more, halted⟩ := exists_last_step (Prod.ext rfl stopped)
  have underway := (Reached.start.goesOn goes).underway
  exact ⟨(underway.fault_in halted).1, underway.exists_opener halted⟩

end Scan
end

namespace Editor

/-! ## Places and ranges -/

/-- One place is before another: on an earlier line, or before it on its line. -/
instance : LT Place :=
  ⟨fun first second => first.line < second.line ∨
    first.line = second.line ∧ first.character < second.character⟩

/-- One place is not behind another. -/
instance : LE Place :=
  ⟨fun first second => first.line < second.line ∨
    first.line = second.line ∧ first.character ≤ second.character⟩

theorem Place.lt_iff {first second : Place} : first < second ↔
    first.line < second.line ∨ first.line = second.line ∧ first.character < second.character :=
  .rfl

theorem Place.le_of_lt {first second : Place} (before : first < second) : first ≤ second :=
  before.imp_right fun sameLine => ⟨sameLine.1, Int.le_of_lt sameLine.2⟩

theorem Place.le_refl (place : Place) : place ≤ place := .inr ⟨rfl, Int.le_refl _⟩

theorem Place.lt_trans {first second third : Place} (one : first < second) (other : second < third) :
    first < third := by
  rw [Place.lt_iff] at one other ⊢
  omega

/-- A range covers something of a line of a text, where lines end with line feeds, and nothing beyond
the line. -/
structure Range.InLine (source : Text) (range : Range) : Prop where
  start : 0 ≤ range.start.line ∧ 0 ≤ range.start.character
  sameLine : range.stop.line = range.start.line
  filled : range.start.character < range.stop.character
  within : ∃ line, (stretches '\n' source)[range.start.line.toNat]? = some line ∧
    range.stop.character ≤ line.length

variable {source : Text} {first second position : Position} {tokens : List Token} {token : Token}

theorem Place.ofPosition_lt (earlier : first.In source) (later : second.In source)
    (before : first.offset < second.offset) : Place.ofPosition first < Place.ofPosition second := by
  have front := take_toNat_append (Int.le_of_lt before) source
  have line := later.line
  have column := later.column
  rw [front] at line column
  by_cases sameLine : '\n' ∈ (source.take second.offset.toNat).drop first.offset.toNat
  · have feeds := List.count_pos_iff.mpr sameLine
    have line' := earlier.line
    rw [List.count_append] at line
    refine .inl ?_
    simp only [Place.ofPosition]
    omega
  · rw [List.count_append, List.count_eq_zero.mpr sameLine] at line
    rw [column_append sameLine, List.length_drop, List.length_take] at column
    have line' := earlier.line
    have column' := earlier.column
    have size := later.offset
    have size' := earlier.offset
    refine .inr ⟨?_, ?_⟩
    · simp only [Place.ofPosition]
      omega
    · simp only [Place.ofPosition]
      omega

/-- The line of a place of a text has the characters before the place and those up to a line feed. -/
theorem exists_line_of_in (within : position.In source) :
    0 ≤ (Place.ofPosition position).line ∧ 0 ≤ (Place.ofPosition position).character ∧
      ∃ line, (stretches '\n' source)[(Place.ofPosition position).line.toNat]? = some line ∧
        line.length = (Place.ofPosition position).character +
          ((source.drop position.offset.toNat).takeWhile (· != '\n')).length := by
  obtain ⟨line, here, size⟩ :=
    exists_line (source.take position.offset.toNat) (source.drop position.offset.toNat)
  rw [List.take_append_drop] at here
  have lines := within.line
  have column := within.column
  simp only [Place.ofPosition]
  refine ⟨by omega, by omega, line, ?_, by omega⟩
  rw [← here]
  congr 1
  omega

theorem Range.ofCharacter_inLine {c : Char} {rest : Text} (within : position.In source)
    (opener : source.drop position.offset.toNat = c :: rest) (sameLine : c ≠ '\n') :
    (Range.ofCharacter position).InLine source := by
  obtain ⟨line, character, whole, here, size⟩ := exists_line_of_in within
  rw [opener, List.takeWhile_cons_of_pos (by simpa using sameLine), List.length_cons] at size
  refine ⟨⟨line, character⟩, rfl, ?_, whole, here, ?_⟩
  · simp only [Range.ofCharacter]
    omega
  · simp only [Range.ofCharacter]
    omega

theorem Range.ofSpan_inLine (within : token.In source) : (Range.ofSpan token.span).InLine source := by
  obtain ⟨line, character, whole, here, size⟩ := exists_line_of_in within.start
  obtain ⟨sameLine, columns⟩ := within.columns
  obtain ⟨c, starts, -⟩ := within.digit
  have filled := List.length_pos_iff.mpr (List.ne_nil_of_mem (List.mem_of_mem_head? starts))
  -- The token is the start of what is ahead on its line.
  have ahead : token.raw <+: (source.drop token.span.start.offset.toNat).takeWhile (· != '\n') := by
    have spelled := within.raw
    rw [List.drop_take] at spelled
    have leads : token.raw <+: source.drop token.span.start.offset.toNat :=
      spelled ▸ List.take_prefix _ _
    obtain ⟨behind, split⟩ := leads
    rw [← split, List.takeWhile_append_of_pos]
    · exact List.prefix_append _ _
    · intro c member
      rw [bne_iff_ne]
      rintro rfl
      exact within.line member
  have short := ahead.length_le
  refine ⟨⟨line, character⟩, ?_, ?_, whole, here, ?_⟩
  · simp only [Range.ofSpan, Place.ofPosition, sameLine]
  · simp only [Range.ofSpan, Place.ofPosition, columns]
    omega
  · simp only [Range.ofSpan, Place.ofPosition, columns] at size ⊢
    omega

/-- The ranges of tokens lie one behind the other, with something between them. -/
theorem ranges_apart (scanned : Scan.ofText source = .ok tokens) :
    tokens.Pairwise fun first second =>
      (Range.ofSpan first.span).stop < (Range.ofSpan second.span).start := by
  have inside := Scan.in_of_ofText scanned
  refine (Scan.apart_of_ofText scanned).imp_of_mem fun {first second} one other apart => ?_
  exact Place.ofPosition_lt (inside first one).stop (inside second other).start apart

end Editor

/-! ## The first token that has no report -/

/-- A token that is no literal. -/
def Token.Rejected (token : Token) : Prop := ∃ fault, Literal.parse token.raw = .error fault

namespace Report

variable {widths : Widths} {tokens : List Token} {token : Token} {report : Report}
  {malformed : Malformed}

theorem not_rejected [Platform] (reported : ofToken widths token = .ok report) : ¬ token.Rejected := by
  rintro ⟨fault, failed⟩
  rw [(ofToken_eq_ok_iff.mp reported).1] at failed
  cases failed

theorem ofToken_eq_malformed [Platform]
    (failed : ofToken widths token = .error (.malformed malformed)) :
    Literal.parse token.raw = .error malformed.fault ∧ malformed.span = token.span := by
  unfold ofToken at failed
  split at failed
  · rename_i unparsed
    cases failed
    exact ⟨unparsed, rfl⟩
  · split at failed
    · cases failed
    · cases failed

/-- The reports on tokens end at the first that has none. -/
theorem exists_first_fault [Platform] {reports : List Report} {fault : ReportFault}
    (ended : ofTokens widths tokens = (reports, some fault)) :
    ∃ before token after, tokens = before ++ token :: after ∧
      ofToken widths token = .error fault ∧ ∀ earlier ∈ before, ¬ earlier.Rejected := by
  induction tokens generalizing reports with
  | nil => cases ended
  | cons token tokens ih =>
    rw [ofTokens] at ended
    cases made : ofToken widths token with
    | error reason =>
      rw [made] at ended
      cases ended
      exact ⟨[], token, tokens, rfl, made, by simp⟩
    | ok report =>
      rcases behind : ofTokens widths tokens with ⟨others, reason⟩
      simp only [made, behind, Prod.mk.injEq] at ended
      obtain ⟨-, rfl⟩ := ended
      obtain ⟨before, first, after, rfl, failed, accepted⟩ := ih behind
      refine ⟨token :: before, first, after, rfl, failed, fun earlier member => ?_⟩
      rcases List.mem_cons.mp member with rfl | inside
      · exact not_rejected made
      · exact accepted earlier inside

end Report

namespace Editor.Diagnostic

variable {widths : Widths} {source : Text} {tokens : List Token} {reports : List Report}
  {diagnostics : List Diagnostic}

/-! ## Diagnostics -/

/-- A text whose scan stops is told its fault. -/
theorem eq_error_of_stopped [Platform] {stop : Stop} (scanned : Scan.ofText source = .error stop)
    (returned : ofSource widths source = .ok diagnostics) :
    ∃ error, stop = .fault error ∧
      diagnostics = [.error (.ofCharacter error.position) error.fault.message] := by
  have failed : analyze widths source = .error (.scan stop) := analyze_eq_scan_iff.mpr scanned
  cases stop with
  | cutEscape =>
    simp only [ofSource, failed] at returned
    cases returned
  | fault error =>
    simp only [ofSource, failed, Except.ok.injEq] at returned
    exact ⟨error, rfl, returned.symm⟩

/-- A text that is scanned is told the leftmost of its numbers that is no literal, or else what is found
in each of them. -/
theorem cases_of_scanned [Platform] (scanned : Scan.ofText source = .ok tokens)
    (returned : ofSource widths source = .ok diagnostics) :
    (∃ token ∈ tokens, ∃ fault, Literal.parse token.raw = .error fault ∧
        (∀ other ∈ tokens, other.Rejected →
          token.span.start.offset ≤ other.span.start.offset) ∧
        diagnostics = [.error (.ofSpan token.span) fault.message]) ∨
      ∃ reports, tokens.map (Report.ofToken widths) = reports.map .ok ∧
        diagnostics = (findingsOf reports).map ofFinding := by
  rcases made : Report.ofTokens widths tokens with ⟨reports, _ | fault⟩
  · have analyzed : analyze widths source = .ok reports := by simp only [analyze, scanned, made]
    simp only [ofSource, analyzed, Except.ok.injEq] at returned
    exact .inr ⟨reports, Report.ofTokens_eq_iff.mp made, returned.symm⟩
  · have failed : analyze widths source = .error (.report fault) := by
      simp only [analyze, scanned, made]
    cases fault with
    | oversize reason =>
      simp only [ofSource, failed] at returned
      cases returned
    | malformed malformed =>
      simp only [ofSource, failed, Except.ok.injEq] at returned
      obtain ⟨before, token, after, rfl, unparsed, accepted⟩ := Report.exists_first_fault made
      obtain ⟨fault, span⟩ := Report.ofToken_eq_malformed unparsed
      rw [span] at returned
      refine .inl ⟨token, by simp, _, fault, fun other among rejected => ?_, returned.symm⟩
      rcases List.mem_append.mp among with earlier | inside
      · exact absurd rejected (accepted other earlier)
      · rcases List.mem_cons.mp inside with rfl | later
        · exact Int.le_refl _
        · have apart := (List.pairwise_append.mp (Scan.apart_of_ofText scanned)).2.1
          have behind := (List.pairwise_cons.mp apart).1 other later
          have size := (Scan.in_of_ofText scanned token (by simp)).length_raw
          omega

/-- The ranges of the findings on a literal are that of the literal. -/
theorem range_ofFinding [Platform] (matched : tokens.map (Report.ofToken widths) = reports.map .ok) :
    ∀ report ∈ reports, ∀ finding ∈ report.findings,
      (ofFinding finding).range = .ofSpan report.span := by
  intro report among finding found
  obtain ⟨token, -, reported⟩ := Report.exists_token matched among
  rw [ofFinding, Report.span_of_mem reported found]

theorem reports_apart [Platform] (scanned : Scan.ofText source = .ok tokens)
    (matched : tokens.map (Report.ofToken widths) = reports.map .ok) :
    reports.Pairwise fun first second =>
      (Range.ofSpan first.span).stop < (Range.ofSpan second.span).start := by
  have spans : tokens.map (·.span) = reports.map (·.span) :=
    Report.map_of_matched matched fun _ _ _ _ reported => (Report.span_eq reported).symm
  have apart : (tokens.map (·.span)).Pairwise fun first second =>
      (Range.ofSpan first).stop < (Range.ofSpan second).start :=
    List.pairwise_map.mpr (ranges_apart scanned)
  rw [spans] at apart
  exact List.pairwise_map.mp apart

theorem report_inLine [Platform] (scanned : Scan.ofText source = .ok tokens)
    (matched : tokens.map (Report.ofToken widths) = reports.map .ok) :
    ∀ report ∈ reports, (Range.ofSpan report.span).InLine source := by
  intro report among
  obtain ⟨token, emitted, reported⟩ := Report.exists_token matched among
  rw [Report.span_eq reported]
  exact Range.ofSpan_inLine (Scan.in_of_ofText scanned token emitted)

/-- The warnings for findings start one behind the other, or at the same place. -/
theorem warnings_ordered [Platform] (scanned : Scan.ofText source = .ok tokens)
    (matched : tokens.map (Report.ofToken widths) = reports.map .ok) :
    ((findingsOf reports).map ofFinding).Pairwise fun first second =>
      first.range.start ≤ second.range.start := by
  have ranges := range_ofFinding matched
  refine List.pairwise_map.mpr (List.pairwise_flatMap.mpr ⟨fun report among => ?_, ?_⟩)
  · refine List.pairwise_of_forall_mem_list fun first one second other => ?_
    rw [ranges report among first one, ranges report among second other]
    exact Place.le_refl _
  · refine (reports_apart scanned matched).imp_of_mem fun {report report'} among among' apart => ?_
    intro first one second other
    rw [ranges report among first one, ranges report' among' second other]
    have line := report_inLine scanned matched report among
    exact Place.le_of_lt (Place.lt_trans (.inr ⟨line.sameLine.symm, line.filled⟩) apart)

/-- What an editor is told about a source text. If its scan stops, that is one error at the fault, whatever
numbers come before. Otherwise, if there are numbers that are no literals, it is one error for the
leftmost of them, over its whole span. Otherwise it is a warning for each finding, in the order of the
literals: those on one literal have its range, and the ranges of different literals lie one behind the
other with something between them. Each range covers something of one line, and ends within it. -/
theorem ofSource_shape [Platform] (returned : ofSource widths source = .ok diagnostics) :
    (∀ stop, Scan.ofText source = .error stop → ∃ error, stop = .fault error ∧
      diagnostics = [.error (.ofCharacter error.position) error.fault.message]) ∧
    (∀ tokens, Scan.ofText source = .ok tokens → (∃ token ∈ tokens, token.Rejected) →
      ∃ token ∈ tokens, ∃ fault, Literal.parse token.raw = .error fault ∧
        (∀ other ∈ tokens, other.Rejected →
          token.span.start.offset ≤ other.span.start.offset) ∧
        diagnostics = [.error (.ofSpan token.span) fault.message]) ∧
    (∀ tokens, Scan.ofText source = .ok tokens → (∀ token ∈ tokens, ¬ token.Rejected) →
      ∃ reports : List Report, tokens.map (Report.ofToken widths) = reports.map .ok ∧
        diagnostics = (reports.flatMap (·.findings)).map ofFinding ∧
        (∀ diagnostic ∈ diagnostics, diagnostic.severity = some .warning) ∧
        (∀ report ∈ reports, ∀ finding ∈ report.findings,
          (ofFinding finding).range = .ofSpan report.span) ∧
        reports.Pairwise fun first second =>
          (Range.ofSpan first.span).stop < (Range.ofSpan second.span).start) ∧
    diagnostics.Pairwise (fun first second => first.range.start ≤ second.range.start) ∧
    ∀ diagnostic ∈ diagnostics, diagnostic.range.InLine source := by
  cases scanned : Scan.ofText source with
  | error stop =>
    obtain ⟨error, rfl, rfl⟩ := eq_error_of_stopped scanned returned
    obtain ⟨within, c, rest, opener, sameLine⟩ := Scan.fault_of_ofText scanned
    refine ⟨?_, by simp, by simp, List.pairwise_singleton _ _, ?_⟩
    · rintro _ ⟨⟩
      exact ⟨error, rfl, rfl⟩
    · rintro diagnostic (_ | ⟨_, ⟨⟩⟩)
      exact Range.ofCharacter_inLine within opener sameLine
  | ok tokens =>
    obtain ⟨token, emitted, fault, unparsed, leftmost, rfl⟩ | ⟨reports, matched, rfl⟩ :=
      cases_of_scanned scanned returned
    · refine ⟨by simp, ?_, ?_, List.pairwise_singleton _ _, ?_⟩
      · rintro _ ⟨⟩ -
        exact ⟨token, emitted, fault, unparsed, leftmost, rfl⟩
      · rintro _ ⟨⟩ accepted
        exact absurd ⟨fault, unparsed⟩ (accepted token emitted)
      · rintro diagnostic (_ | ⟨_, ⟨⟩⟩)
        exact Range.ofSpan_inLine (Scan.in_of_ofText scanned token emitted)
    · refine ⟨by simp, ?_, ?_, warnings_ordered scanned matched, ?_⟩
      · rintro _ ⟨⟩ ⟨token, emitted, rejected⟩
        obtain ⟨report, -, reported⟩ := Report.exists_report matched emitted
        exact absurd rejected (Report.not_rejected reported)
      · rintro _ ⟨⟩ -
        refine ⟨reports, matched, rfl, ?_, range_ofFinding matched, reports_apart scanned matched⟩
        intro diagnostic told
        obtain ⟨finding, -, rfl⟩ := List.mem_map.mp told
        rfl
      · intro diagnostic told
        obtain ⟨finding, found, rfl⟩ := List.mem_map.mp told
        obtain ⟨report, among, inside⟩ := List.mem_flatMap.mp found
        rw [range_ofFinding matched report among finding inside]
        exact report_inLine scanned matched report among

/-- Leading zeros on two lines, with a suffix behind the second. -/
theorem ofSource_shape_leading_zeros :
    ∃ diagnostics, ofSource .default ['0', '7', '\n', ' ', '0', '9', 'u', '8'] = .ok diagnostics ∧
      (∀ diagnostic ∈ diagnostics, diagnostic.severity = some .warning) ∧
      diagnostics.Pairwise (fun first second => first.range.start ≤ second.range.start) ∧
      ∀ diagnostic ∈ diagnostics,
        diagnostic.range.InLine ['0', '7', '\n', ' ', '0', '9', 'u', '8'] := by
  have scanned : Scan.ofText ['0', '7', '\n', ' ', '0', '9', 'u', '8'] =
      .ok [⟨['0', '7'], ⟨⟨1, 1, 0⟩, ⟨1, 3, 2⟩⟩⟩, ⟨['0', '9', 'u', '8'], ⟨⟨2, 2, 4⟩, ⟨2, 6, 8⟩⟩⟩] := by
    obtain ⟨last, ran⟩ : ∃ last, (Scan.start ['0', '7', '\n', ' ', '0', '9', 'u', '8']).run =
        (⟨last, [⟨['0', '9', 'u', '8'], ⟨⟨2, 2, 4⟩, ⟨2, 6, 8⟩⟩⟩, ⟨['0', '7'], ⟨⟨1, 1, 0⟩, ⟨1, 3, 2⟩⟩⟩]⟩,
          none) := ⟨_, Scan.run_eq_of_runWithin (Nat.le_refl 8) rfl⟩
    exact Scan.ofText_of_run ran
  obtain ⟨first, one⟩ : ∃ report, Report.ofToken .default
      ⟨['0', '7'], ⟨⟨1, 1, 0⟩, ⟨1, 3, 2⟩⟩⟩ = .ok report := ⟨_, rfl⟩
  obtain ⟨second, other⟩ : ∃ report, Report.ofToken .default
      ⟨['0', '9', 'u', '8'], ⟨⟨2, 2, 4⟩, ⟨2, 6, 8⟩⟩⟩ = .ok report := ⟨_, rfl⟩
  have analyzed : analyze .default ['0', '7', '\n', ' ', '0', '9', 'u', '8'] = .ok [first, second] :=
    analyze_eq_ok_iff.mpr ⟨_, scanned, by simp [one, other]⟩
  have returned : ofSource .default ['0', '7', '\n', ' ', '0', '9', 'u', '8'] =
      .ok ((findingsOf [first, second]).map ofFinding) := by rw [ofSource, analyzed]
  obtain ⟨-, -, warned, ordered, inLine⟩ := ofSource_shape returned
  have accepted : ∀ token ∈ [(⟨['0', '7'], ⟨⟨1, 1, 0⟩, ⟨1, 3, 2⟩⟩⟩ : Token),
      ⟨['0', '9', 'u', '8'], ⟨⟨2, 2, 4⟩, ⟨2, 6, 8⟩⟩⟩], ¬ token.Rejected := by
    intro token emitted
    simp only [List.mem_cons, List.not_mem_nil, or_false] at emitted
    rcases emitted with rfl | rfl
    · exact Report.not_rejected one
    · exact Report.not_rejected other
  obtain ⟨-, -, -, severity, -⟩ := warned _ scanned accepted
  exact ⟨_, returned, severity, ordered, inLine⟩

end Editor.Diagnostic
end NumeralStyle
