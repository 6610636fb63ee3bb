import NumeralStyle.Proofs.Editor.Applying
import NumeralStyle.Proofs.Editor.Published
import NumeralStyle.Proofs.Source.Tokens

/-! Ranges as editors read them. To an editor a carriage return ends a line as well as a line feed does,
both together end one, and a line is counted in code units, of which a character beyond the basic plane
has two. A scan counts otherwise. So the range of a quick fix selects its literal exactly if no line
before it ends in a carriage return alone, and no character before it on its line has two code units
(`QuickFix.selects_iff`). -/
namespace NumeralStyle
open Text

namespace Text

/-! ## Code units -/

/-- The number of code units of a character. -/
def unitsOf (c : Char) : Nat := if c.toNat < 0x10000 then 1 else 2

theorem unitsOf_pos (c : Char) : 1 ≤ unitsOf c := by
  unfold unitsOf
  split <;> omega

theorem unitsOf_of_ascii {c : Char} (ascii : c.val < 128) : unitsOf c = 1 := by
  have small : c.toNat < 128 := ascii
  rw [unitsOf, if_pos (by omega)]

/-- The number of code units of a text. -/
def units : Text → Nat
  | [] => 0
  | c :: rest => units rest + unitsOf c

theorem units_append (front rest : Text) : units (front ++ rest) = units front + units rest := by
  induction front with
  | nil => simp [units]
  | cons c front ih =>
    rw [List.cons_append, units, units, ih]
    omega

theorem length_le_units (text : Text) : text.length ≤ units text := by
  induction text with
  | nil => exact Nat.le_refl _
  | cons c rest ih =>
    have positive := unitsOf_pos c
    rw [List.length_cons, units]
    omega

/-- A text has as many code units as characters exactly if none of these has two. -/
theorem units_eq_length_iff {text : Text} : units text = text.length ↔ ∀ c ∈ text, unitsOf c = 1 := by
  induction text with
  | nil => simp [units]
  | cons c rest ih =>
    have positive := unitsOf_pos c
    have size := length_le_units rest
    rw [List.forall_mem_cons, ← ih, units, List.length_cons]
    omega

/-! ## Lines of an editor -/

/-- Whether a carriage return ends a line that no line feed ends. -/
def isLoneReturn (c : Char) (rest : Text) : Bool := c == '\r' && rest.head? != some '\n'

/-- Whether one of the lines of a text ends in a lone carriage return. -/
def hasLoneReturn : Text → Bool
  | [] => false
  | c :: rest => isLoneReturn c rest || hasLoneReturn rest

/-- Whether a line of an editor ends with a character. The first character of a carriage return and a
line feed ends no line. -/
def endsEditorLine (c : Char) (rest : Text) : Bool := c == '\n' || isLoneReturn c rest

/-- The number of code units of a text before a place that has a number of lines before it, and a number
of code units on its own line. A place behind the end of its line is read as the end of the line. -/
def unitsBefore : (lines inLine : Nat) → Text → Nat
  | 0, inLine, text => min inLine (units (text.takeWhile fun c => c != '\n' && c != '\r'))
  | _ + 1, _, [] => 0
  | lines + 1, inLine, c :: rest =>
    unitsBefore (if endsEditorLine c rest then lines else lines + 1) inLine rest + unitsOf c

section

variable {lines inLine : Nat} {c : Char} {front rest : Text}

theorem endsEditorLine_feed (rest : Text) : endsEditorLine '\n' rest = true := rfl

theorem endsEditorLine_of_ne (other : c ≠ '\n') (rest : Text) :
    endsEditorLine c rest = isLoneReturn c rest := by
  simp [endsEditorLine, other]

theorem isLoneReturn_append (filled : front ≠ []) (rest : Text) :
    isLoneReturn c (front ++ rest) = isLoneReturn c front := by
  rw [isLoneReturn, isLoneReturn, List.head?_append_of_ne_nil _ filled]

/-- A line that ends within a text has fewer code units than the text. -/
theorem units_line_lt (ends : '\n' ∈ front ∨ '\r' ∈ front) (rest : Text) :
    units ((front ++ rest).takeWhile fun c => c != '\n' && c != '\r') < units front := by
  induction front with
  | nil => simp at ends
  | cons c front ih =>
    have positive := unitsOf_pos c
    by_cases here : c = '\n' ∨ c = '\r'
    · rw [List.cons_append, List.takeWhile_cons_of_neg (by grind), units, units]
      omega
    · have behind := ih (by grind)
      rw [List.cons_append, List.takeWhile_cons_of_pos (by grind), units, units]
      omega

/-- A place on a line that ends within a text is before the end of the text. -/
theorem unitsBefore_lt (ended : lines < front.count '\n') (inLine : Nat) (rest : Text) :
    unitsBefore lines inLine (front ++ rest) < units front := by
  induction front generalizing lines with
  | nil => simp at ended
  | cons c front ih =>
    have positive := unitsOf_pos c
    cases lines with
    | zero =>
      have line := units_line_lt (.inl (List.count_pos_iff.mp ended)) rest
      rw [unitsBefore]
      omega
    | succ lines =>
      -- A line feed ends an editor's line too, so there are lines left that end behind it.
      have left : (if endsEditorLine c (front ++ rest) then lines else lines + 1) < front.count '\n' := by
        by_cases feed : c = '\n'
        · subst feed
          rw [endsEditorLine_feed, if_pos rfl]
          simpa using ended
        · rw [List.count_cons_of_ne feed] at ended
          split <;> omega
      have behind := ih left
      rw [List.cons_append, unitsBefore, units]
      omega

/-- Where no line ends before a place, its code units are its characters if there are none that an editor
counts otherwise. -/
theorem unitsBefore_line_iff (oneLine : '\n' ∉ front) (rest : Text) :
    unitsBefore 0 front.length (front ++ rest) = units front ↔
      '\r' ∉ front ∧ ∀ c ∈ front, unitsOf c = 1 := by
  rw [unitsBefore, ← units_eq_length_iff]
  by_cases ended : '\r' ∈ front
  · have line := units_line_lt (.inr ended) rest
    simp only [ended, not_true, false_and, iff_false]
    omega
  · have inside : ∀ c ∈ front, (c != '\n' && c != '\r') = true := by
      intro c member
      have noFeed : c ≠ '\n' := fun same => oneLine (same ▸ member)
      have noReturn : c ≠ '\r' := fun same => ended (same ▸ member)
      simp [noFeed, noReturn]
    have size := length_le_units front
    rw [List.takeWhile_append_of_pos inside, units_append]
    simp only [ended, not_false_iff, true_and]
    omega

theorem hasLoneReturn_eq_false_iff (oneLine : '\n' ∉ front) :
    hasLoneReturn front = false ↔ '\r' ∉ front := by
  induction front with
  | nil => simp [hasLoneReturn]
  | cons c front ih =>
    obtain ⟨-, behind⟩ := not_or.mp (mt List.mem_cons.mpr oneLine)
    have noFeed : front.head? ≠ some '\n' := fun first => behind (List.mem_of_mem_head? first)
    have alone : isLoneReturn c front = (c == '\r') := by simp [isLoneReturn, noFeed]
    rw [hasLoneReturn, Bool.or_eq_false_iff, ih behind, List.mem_cons, not_or, alone, beq_eq_false_iff_ne,
      ne_comm]

/-- A place is read as the scan means it exactly if there is no lone carriage return before it, and no
character of two code units before it on its line. -/
theorem unitsBefore_eq_iff (front rest : Text) :
    unitsBefore (front.count '\n') (column front) (front ++ rest) = units front ↔
      hasLoneReturn front = false ∧ ∀ c ∈ lastLine front, unitsOf c = 1 := by
  induction front with
  | nil => simp [unitsBefore, units, hasLoneReturn, lastLine, column_nil]
  | cons c front ih =>
    by_cases oneLine : '\n' ∉ c :: front
    · rw [List.count_eq_zero.mpr oneLine, column_of_not_mem oneLine, lastLine_of_not_mem oneLine,
        unitsBefore_line_iff oneLine, hasLoneReturn_eq_false_iff oneLine]
    · have feed : c = '\n' ∨ '\n' ∈ front := by
        rw [eq_comm, ← List.mem_cons]
        exact Decidable.not_not.mp oneLine
      rw [column_cons feed, lastLine_cons feed, List.cons_append, units, hasLoneReturn]
      by_cases isFeed : c = '\n'
      · subst isFeed
        rw [List.count_cons_self, unitsBefore, endsEditorLine_feed, if_pos rfl, Nat.add_right_cancel_iff,
          ih]
        rfl
      · have filled : front ≠ [] := List.ne_nil_of_mem (feed.resolve_left isFeed)
        obtain ⟨lines, ended⟩ := Nat.exists_eq_add_one_of_ne_zero
          (Nat.ne_of_gt (List.count_pos_iff.mpr (feed.resolve_left isFeed)))
        rw [List.count_cons_of_ne isFeed]
        rw [ended] at ih ⊢
        rw [unitsBefore, endsEditorLine_of_ne isFeed, isLoneReturn_append filled]
        cases alone : isLoneReturn c front with
        | false =>
          rw [Bool.false_or, if_neg Bool.false_ne_true, Nat.add_right_cancel_iff, ih]
        | true =>
          have inside : lines < front.count '\n' := by omega
          have before := unitsBefore_lt inside (column front) rest
          rw [if_pos rfl, Bool.true_or]
          simp only [Bool.true_eq_false, false_and, iff_false]
          omega

theorem hasLoneReturn_append {behind : Text} (noFeed : '\n' ∉ behind) (noReturn : '\r' ∉ behind) :
    hasLoneReturn (front ++ behind) = hasLoneReturn front := by
  induction front with
  | nil => exact (hasLoneReturn_eq_false_iff noFeed).mpr noReturn
  | cons c front ih =>
    have first : behind.head? ≠ some '\n' := fun starts => noFeed (List.mem_of_mem_head? starts)
    have same : isLoneReturn c (front ++ behind) = isLoneReturn c front := by
      cases front with
      | nil => simp only [isLoneReturn, List.nil_append, bne_iff_ne.mpr first]; rfl
      | cons d front => exact isLoneReturn_append (List.cons_ne_nil d front) behind
    rw [List.cons_append, hasLoneReturn, hasLoneReturn, ih, same]

end
end Text

namespace Lexeme

theorem return_not_ident : CharClass.isIdentChar '\r' = false := by decide

end Lexeme

namespace Editor

/-! ## Ranges -/

/-- The number of code units of a text before a place, as editors read it. -/
def Place.units (source : Text) (place : Place) : Nat :=
  unitsBefore place.line.toNat place.character.toNat source

/-- A range is, as editors read it, that of a part of a text behind a front. -/
def Range.Selects (source front selected : Text) (range : Range) : Prop :=
  range.start.units source = Text.units front ∧
    range.stop.units source = Text.units (front ++ selected)

instance (source front selected : Text) (range : Range) :
    Decidable (range.Selects source front selected) :=
  inferInstanceAs (Decidable (_ ∧ _))

variable {widths : Widths} {source document front rest : Text} {tokens : List Token} {token : Token}
  {position : Position} {diagnostics : List Diagnostic} {fixes : List QuickFix}

/-- The place of a position is read as the scan means it exactly if an editor counts the lines before it
and the characters of its line as the scan does. -/
theorem units_ofPosition (within : position.In source) (whole : source = front ++ rest)
    (size : position.offset = front.length) :
    (Place.ofPosition position).units source = Text.units front ↔
      hasLoneReturn front = false ∧ ∀ c ∈ lastLine front, unitsOf c = 1 := by
  have line := within.line
  have column := within.column
  rw [size, Int.toNat_natCast, whole, List.take_left] at line column
  have place : (Place.ofPosition position).units source =
      unitsBefore (front.count '\n') (Text.column front) (front ++ rest) := by
    rw [Place.units, ← whole]
    congr 1
    · simp only [Place.ofPosition]
      omega
    · simp only [Place.ofPosition]
      omega
  rw [place, unitsBefore_eq_iff]

/-- The range of a literal is read as the scan means it exactly if the place of its start is. The
literal itself is in ASCII. -/
theorem Range.ofSpan_selects_iff (within : token.In source) (whole : source = front ++ token.raw ++ rest)
    (size : token.span.start.offset = front.length) (ascii : ∀ c ∈ token.raw, c.val < 128)
    (noReturn : '\r' ∉ token.raw) :
    (Range.ofSpan token.span).Selects source front token.raw ↔
      hasLoneReturn front = false ∧ ∀ c ∈ lastLine front, unitsOf c = 1 := by
  have start := units_ofPosition within.start (List.append_assoc _ _ _ ▸ whole) size
  have stop := units_ofPosition within.stop whole (by
    rw [within.length_raw, size, List.length_append, Int.natCast_add])
  have inside : ∀ c ∈ token.raw, unitsOf c = 1 := fun c member => unitsOf_of_ascii (ascii c member)
  rw [hasLoneReturn_append within.line noReturn, lastLine_append within.line, List.forall_mem_append,
    and_iff_left inside] at stop
  rw [Range.Selects, Range.ofSpan, start, stop, and_self]

/-- A literal that a scan finds stands in the text at the place of its start, and is in ASCII and on
one line. -/
theorem exists_front (scanned : Scan.ofText source = .ok tokens) (emitted : token ∈ tokens)
    {literal : Literal} (read : Literal.parse token.raw = .ok literal) :
    token.In source ∧ (∀ c ∈ token.raw, c.val < 128) ∧ '\r' ∉ token.raw ∧
      ∃ front rest, source = front ++ token.raw ++ rest ∧
        token.span.start.offset = front.length := by
  have within := Scan.in_of_ofText scanned token emitted
  obtain ⟨-, afterPoint, others, munch⟩ := (Scan.ofText_eq_ok_iff.mp scanned).munch emitted
  exact ⟨within, Literal.ascii_of_isNumber (Literal.exists_parse_iff.mp ⟨literal, read⟩),
    munch.not_mem Lexeme.return_not_ident (by decide), within.parts⟩

namespace QuickFix

theorem ofDiagnostics_error (document : Text) (range : Range) (message : String) :
    ofDiagnostics document [.error range message] = .ok [] := rfl

/-- A fix that is offered for a text is one for a suggestion on one of its literals. -/
theorem exists_finding_of_offered [Platform]
    (diagnosed : Diagnostic.ofSource widths source = .ok diagnostics)
    (offers : ofDiagnostics document diagnostics = .ok fixes) {fix : QuickFix} (among : fix ∈ fixes) :
    ∃ tokens, Scan.ofText source = .ok tokens ∧ ∃ token ∈ tokens, ∃ report,
      Report.ofToken widths token = .ok report ∧ ∃ finding ∈ report.findings,
        ∃ spelling ∈ finding.suggestions, fix = ⟨document, .ofFinding finding, spelling⟩ := by
  have none {range : Range} {message : String} (alone : diagnostics = [.error range message]) :
      False := by
    rw [alone, ofDiagnostics_error] at offers
    cases offers
    cases among
  cases scanned : Scan.ofText source with
  | error stop =>
    obtain ⟨error, -, alone⟩ := Diagnostic.eq_error_of_stopped scanned diagnosed
    exact (none alone).elim
  | ok tokens =>
    obtain ⟨_, -, _, -, -, alone⟩ | ⟨reports, matched, rfl⟩ :=
      Diagnostic.cases_of_scanned scanned diagnosed
    · exact (none alone).elim
    · rw [ofDiagnostics_ofFinding] at offers
      cases offers
      obtain ⟨report, inside, found⟩ := mem_offered.mp among
      obtain ⟨token, emitted, reported⟩ := Report.exists_token matched inside
      exact ⟨tokens, rfl, token, emitted, report, reported, found⟩

/-- Each fix that is offered for a text is one for a suggestion on a literal, which the text has behind
some front. To an editor the fix replaces that literal, and nothing but it, exactly if no line of the
front ends in a lone carriage return and no character before the literal on its line has two code
units. -/
theorem selects_iff [Platform] (diagnosed : Diagnostic.ofSource widths source = .ok diagnostics)
    (offers : ofDiagnostics document diagnostics = .ok fixes) :
    ∀ fix ∈ fixes, ∃ tokens, Scan.ofText source = .ok tokens ∧ ∃ token ∈ tokens, ∃ report,
      Report.ofToken widths token = .ok report ∧
      (∃ finding ∈ report.findings, ∃ spelling ∈ finding.suggestions,
        fix = ⟨document, .ofFinding finding, spelling⟩) ∧
      ∃ front rest, source = front ++ token.raw ++ rest ∧ token.span.start.offset = front.length ∧
        (fix.range.Selects source front token.raw ↔
          hasLoneReturn front = false ∧ ∀ c ∈ lastLine front, unitsOf c = 1) := by
  intro fix among
  obtain ⟨tokens, scanned, token, emitted, report, reported, finding, found, spelling, suggested, rfl⟩ :=
    exists_finding_of_offered diagnosed offers among
  obtain ⟨read, -, span, -⟩ := Report.ofToken_eq_ok_iff.mp reported
  obtain ⟨within, ascii, noReturn, front, rest, whole, size⟩ := exists_front scanned emitted read
  have place : (⟨document, .ofFinding finding, spelling⟩ : QuickFix).range = .ofSpan token.span := by
    rw [← span, ← Report.span_of_mem reported found]
    rfl
  refine ⟨tokens, scanned, token, emitted, report, reported,
    ⟨finding, found, spelling, suggested, rfl⟩, front, rest, whole, size, ?_⟩
  rw [place]
  exact Range.ofSpan_selects_iff within whole size ascii noReturn

/-- Text that is scanned and has a report on each of its tokens is offered a fix for each suggestion. -/
theorem offers_of_matched [Platform] {reports : List Report} (document : Text)
    (scanned : Scan.ofText source = .ok tokens)
    (matched : tokens.map (Report.ofToken widths) = reports.map .ok) :
    Diagnostic.ofSource widths source = .ok ((findingsOf reports).map .ofFinding) ∧
      ofDiagnostics document ((findingsOf reports).map .ofFinding) = .ok (offered document reports) := by
  rw [Diagnostic.ofSource, analyze_eq_ok_iff.mpr ⟨tokens, scanned, matched⟩]
  exact ⟨rfl, ofDiagnostics_ofFinding document _⟩

/-- The scan of leading zeros behind a character in quotes. -/
theorem scanned_behind_quoted : ∀ c ∈ ['é', '😀'], Scan.ofText ['"', c, '"', ',', '0', '7'] =
    .ok [⟨['0', '7'], ⟨⟨1, 5, 4⟩, ⟨1, 7, 6⟩⟩⟩] := by
  intro c among
  obtain ⟨last, ran⟩ : ∃ last, (Scan.start ['"', c, '"', ',', '0', '7']).run =
      (⟨last, [⟨['0', '7'], ⟨⟨1, 5, 4⟩, ⟨1, 7, 6⟩⟩⟩]⟩, none) := by
    simp only [List.mem_cons, List.not_mem_nil, or_false] at among
    rcases among with rfl | rfl <;> exact ⟨_, Scan.run_eq_of_runWithin (Nat.le_refl 6) rfl⟩
  exact Scan.ofText_of_run ran

/-- A fix for them is offered, and its range counts characters. -/
theorem offered_behind_quoted [Platform] : ∀ c ∈ ['é', '😀'], ∃ diagnostics fixes,
    Diagnostic.ofSource .default ['"', c, '"', ',', '0', '7'] = .ok diagnostics ∧
      ofDiagnostics ['a'] diagnostics = .ok fixes ∧
      ∃ fix ∈ fixes, fix.spelling = ['7'] ∧ fix.range = ⟨⟨0, 4⟩, ⟨0, 6⟩⟩ := by
  intro c among
  obtain ⟨report, reported, span, finding, found, suggested⟩ : ∃ report,
      Report.ofToken .default ⟨['0', '7'], ⟨⟨1, 5, 4⟩, ⟨1, 7, 6⟩⟩⟩ = .ok report ∧
        report.span = ⟨⟨1, 5, 4⟩, ⟨1, 7, 6⟩⟩ ∧
        ∃ finding ∈ report.findings, ['7'] ∈ finding.suggestions :=
    ⟨_, rfl, rfl, _, List.mem_cons_self .., List.mem_cons_self ..⟩
  have matched : [(⟨['0', '7'], ⟨⟨1, 5, 4⟩, ⟨1, 7, 6⟩⟩⟩ : Token)].map (Report.ofToken .default) =
      [report].map .ok := by
    rw [List.map_singleton, reported]
    rfl
  obtain ⟨diagnosed, offers⟩ := offers_of_matched ['a'] (scanned_behind_quoted c among) matched
  have fixed : ⟨['a'], .ofFinding finding, ['7']⟩ ∈ offered ['a'] [report] :=
    mem_offered.mpr ⟨report, List.mem_singleton_self _, finding, found, ['7'], suggested, rfl⟩
  refine ⟨_, _, diagnosed, offers, _, fixed, rfl, ?_⟩
  rw [range, Diagnostic.ofFinding, Report.span_of_mem reported found, span]
  rfl

/-- Leading zeros behind an accented letter. -/
theorem selects_behind_accent : ∃ diagnostics fixes,
    Diagnostic.ofSource .default ['"', 'é', '"', ',', '0', '7'] = .ok diagnostics ∧
      ofDiagnostics ['a'] diagnostics = .ok fixes ∧ ∃ fix ∈ fixes, fix.spelling = ['7'] ∧
        fix.range.Selects ['"', 'é', '"', ',', '0', '7'] ['"', 'é', '"', ','] ['0', '7'] := by
  obtain ⟨diagnostics, fixes, diagnosed, offers, fix, among, spelling, -⟩ :=
    offered_behind_quoted 'é' (by decide)
  obtain ⟨tokens, scanned, token, emitted, -, -, -, front, rest, whole, size, selects⟩ :=
    selects_iff diagnosed offers fix among
  rw [scanned_behind_quoted 'é' (by decide), Except.ok.injEq] at scanned
  subst scanned
  obtain rfl := List.mem_singleton.mp emitted
  have before : front.length = 4 := by
    simp only at size
    omega
  have same := congrArg (List.take front.length) whole
  rw [List.append_assoc, List.take_left, before] at same
  subst same
  exact ⟨diagnostics, fixes, diagnosed, offers, fix, among, spelling, selects.mpr (by decide)⟩

/-- A character beyond the basic plane has two code units, but the range of a fix behind it counts one
character: the range starts before the leading zeros, and ends before the last digit of the literal. -/
theorem selects_other_behind_astral : ∃ diagnostics fixes,
    Diagnostic.ofSource .default ['"', '😀', '"', ',', '0', '7'] = .ok diagnostics ∧
      ofDiagnostics ['a'] diagnostics = .ok fixes ∧ ∃ fix ∈ fixes, fix.spelling = ['7'] ∧
        ¬ fix.range.Selects ['"', '😀', '"', ',', '0', '7'] ['"', '😀', '"', ','] ['0', '7'] ∧
        fix.range.Selects ['"', '😀', '"', ',', '0', '7'] ['"', '😀', '"'] [',', '0'] := by
  obtain ⟨diagnostics, fixes, diagnosed, offers, fix, among, spelling, place⟩ :=
    offered_behind_quoted '😀' (by decide)
  refine ⟨diagnostics, fixes, diagnosed, offers, fix, among, spelling, ?_⟩
  rw [place]
  decide

end QuickFix
end Editor
end NumeralStyle
