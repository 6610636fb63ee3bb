import NumeralStyle.Display.Findings
import NumeralStyle.Proofs.Check.Advice
import NumeralStyle.Proofs.Editor.Published
import NumeralStyle.Proofs.Source.Tokens
import NumeralStyle.Proofs.Text.LineEnds
import NumeralStyle.Proofs.Text.OneLine

/-! What a finding shows of its source text. The fourth line of a finding is a line of the source behind
its gutter, and the fifth is underlined where a literal at the place of the finding would stand in it.
A scan counts lines by line feeds, but the line that is shown is counted by every terminator, so it is
that of the literal only where nothing else ends a line before the literal, or by chance
(`Finding.shown_iff`). -/
namespace NumeralStyle
open CharClass Text

namespace Text

/-! ## Lines put together -/

/-- Lines put together, with more lines behind them, have those lines. -/
theorem getElem?_stretches_intercalate {lines : List Text} (single : ∀ line ∈ lines, '\n' ∉ line)
    {rest : Text} (apart : ∀ c ∈ rest.head?, c = '\n') {number : Nat} (inside : number < lines.length) :
    (stretches '\n' (List.intercalate ['\n'] lines ++ rest))[number]? = lines[number]? := by
  induction lines generalizing number with
  | nil => cases inside
  | cons line others ih =>
    obtain ⟨here, behind⟩ := List.forall_mem_cons.mp single
    cases others with
    | nil =>
      obtain rfl : number = 0 := by simpa using inside
      have within : ∀ c ∈ line, (c != '\n') = true := by
        intro c member
        rw [bne_iff_ne]
        rintro rfl
        exact here member
      rw [List.intercalate_singleton, head?_stretches, takeWhile_run_append within]
      · rfl
      · intro c first
        rw [apart c first]
        rfl
    | cons next others =>
      rw [List.intercalate_cons_cons, List.append_assoc, List.append_assoc, List.singleton_append,
        stretches_append here]
      cases number with
      | zero => rfl
      | succ number =>
        rw [List.getElem?_cons_succ, List.getElem?_cons_succ]
        exact ih behind (Nat.lt_of_succ_lt_succ inside)

theorem exists_behind (line : Text) (others : List Text) :
    ∃ rest, List.intercalate ['\n'] (line :: others) = line ++ rest ∧ ∀ c ∈ rest.head?, c = '\n' := by
  cases others with
  | nil => exact ⟨[], by rw [List.intercalate_singleton, List.append_nil], fun c none => nomatch none⟩
  | cons next others =>
    refine ⟨'\n' :: List.intercalate ['\n'] (next :: others), ?_, fun c first => ?_⟩
    · rw [List.intercalate_cons_cons, List.append_assoc, List.singleton_append]
    · exact (Option.some.inj first).symm

/-- A run behind something without its character is where that character stands. -/
theorem getElem?_append_replicate {c : Char} {front : Text} (none : c ∉ front) (count i : Nat) :
    (front ++ List.replicate count c)[i]? = some c ↔
      front.length ≤ i ∧ i < front.length + count := by
  by_cases before : i < front.length
  · rw [List.getElem?_append_left before]
    refine iff_of_false (fun found => none (List.mem_of_getElem? found)) ?_
    omega
  · have behind := Nat.le_of_not_lt before
    rw [List.getElem?_append_right behind, List.getElem?_replicate, Option.ite_none_right_eq_some,
      and_iff_left rfl]
    omega

end Text

namespace Snippet

variable {source file front literal rest : Text} {start stop : Position}

/-- What is before the line in a snippet. -/
def gutter (line : Int) : Text := Text.ofInt line ++ " | ".toList

/-- The underline in the fifth line of a text stands exactly where a literal does on its line behind the
gutter. -/
def Underlines (shown front literal : Text) : Prop :=
  ∃ row, (stretches '\n' shown)[4]? = some row ∧ ∀ i, row[i]? = some '^' ↔
    (gutter (1 + front.count '\n') ++ lastLine front).length ≤ i ∧
      i < (gutter (1 + front.count '\n') ++ lastLine front ++ literal).length

/-- The fourth line of a text is the line of a literal behind its gutter, and the underline stands exactly
where the literal does in it. -/
structure Shows (shown front literal rest : Text) : Prop where
  line : (stretches '\n' shown)[3]? =
    some (gutter (1 + front.count '\n') ++ lineOf front literal rest)
  underlined : Underlines shown front literal

/-- The rows of a snippet are on one line each. -/
theorem feed_not_mem_rows (oneLine : '\n' ∉ file) :
    ∀ row ∈ rows source start (some stop) file, '\n' ∉ row := by
  have number (n : Int) : '\n' ∉ Text.ofInt n := feed_not_mem_ofInt n
  have line := feed_not_mem_lineAt source start.line
  have run (count : Nat) {c : Char} (other : '\n' ≠ c) : '\n' ∉ List.replicate count c :=
    fun member => other (List.eq_of_mem_replicate member)
  simp only [rows, repeated, List.forall_mem_cons, List.mem_append, not_or]
  refine ⟨?_, ?_, ?_, ?_, List.forall_mem_nil _⟩
  · exact ⟨⟨⟨⟨⟨⟨run _ (by decide), by decide⟩, oneLine⟩, by decide⟩, number _⟩, by decide⟩, number _⟩
  · exact ⟨run _ (by decide), by decide⟩
  · exact ⟨⟨number _, by decide⟩, line⟩
  · exact ⟨⟨⟨run _ (by decide), by decide⟩, run _ (by decide)⟩, run _ (by decide)⟩

/-- The underline of a stretch of one line is behind as many blanks as the gutter and what comes before
the stretch on its line have characters. -/
theorem underline_of_sameLine (source file : Text) (sameLine : stop.line = start.line)
    {before width : Nat} (column : start.column = 1 + before) (columns : stop.column = start.column + width)
    (filled : 0 < width) :
    ∃ row, (rows source start (some stop) file)[3]? = some row ∧ ∀ i, row[i]? = some '^' ↔
      (gutter start.line).length + before ≤ i ∧ i < (gutter start.line).length + before + width := by
  have size : (underlineWidth (lineAt source start.line) start (some stop)).toNat = width := by
    simp only [underlineWidth, sameLine, if_true]
    omega
  have blanks : (start.column - 1).toNat = before := by omega
  refine ⟨_, rfl, fun i => ?_⟩
  have none : '^' ∉ List.replicate ((Text.ofInt start.line).length + 1) ' ' ++ "| ".toList ++
      List.replicate before ' ' := by
    simp
  have length : (List.replicate ((Text.ofInt start.line).length + 1) ' ' ++ "| ".toList ++
      List.replicate before ' ').length = (gutter start.line).length + before := by
    simp [gutter]
    omega
  rw [repeated, repeated, size, blanks, getElem?_append_replicate none, length]

end Snippet

namespace Lexeme

/-- A number in ASCII has nothing in it that ends a line. -/
theorem Munch.endsLine_eq_false {afterPoint : Bool} {number rest : Text}
    (munch : Munch afterPoint number rest) (ascii : ∀ c ∈ number, c.val < 128) :
    ∀ c ∈ number, endsLine c = false := by
  intro c member
  have ends : endsLine c = true → Literal.isTailChar c = false ∧ c ∉ ['.', '+', '-'] :=
    ascii_forall (fun c => endsLine c = true → Literal.isTailChar c = false ∧ c ∉ ['.', '+', '-'])
      (by decide) (ascii c member)
  rw [← Bool.not_eq_true]
  intro ended
  obtain ⟨outside, unmarked⟩ := ends ended
  rw [← isIdentChar_of_ascii (ascii c member)] at outside
  exact munch.not_mem outside unmarked member

end Lexeme

/-- What a finding says is on one line if the sort of number that it speaks of is. -/
theorem FindingKind.feed_not_mem_message (kind : FindingKind) {sort : String}
    (oneLine : '\n' ∉ sort.toList) : '\n' ∉ (kind.message sort).toList := by
  cases kind with
  | unseparatedSuffix =>
    rw [message, String.toList_append, List.mem_append, not_or]
    exact ⟨oneLine, by decide⟩
  | mixedCaseHex | zeroPrefixed | largeGroups | inconsistentGroups =>
    rw [message]
    decide

namespace Finding

variable {widths : Widths} {source file front rest : Text} {tokens : List Token} {token : Token}
  {reports : List Report} {report : Report} {finding : Finding}

theorem feed_not_mem_message [Platform] (reported : Report.ofToken widths token = .ok report)
    (found : finding ∈ report.findings) : '\n' ∉ finding.message.toList := by
  rw [(Report.ofToken_eq_ok_iff.mp reported).2.2.2] at found
  obtain ⟨advice, given, rfl⟩ := List.mem_map.mp found
  have said : (advice.at token.span).message = advice.kind.message report.literal.kind.name :=
    Check.message_of_mem given
  have sort : '\n' ∉ report.literal.kind.name.toList := by cases report.literal.kind <;> decide
  rw [said]
  exact advice.kind.feed_not_mem_message sort

/-- What is above the snippet of a finding. -/
def heading (finding : Finding) (level : Level) : Text :=
  level.label.toList ++ ['['] ++ finding.kind.tag.toList ++ "]: ".toList ++ finding.message.toList

theorem feed_not_mem_heading (said : '\n' ∉ finding.message.toList) (level : Level) :
    '\n' ∉ finding.heading level := by
  have label : '\n' ∉ level.label.toList := by cases level <;> decide
  have tag : '\n' ∉ finding.kind.tag.toList := by cases finding.kind <;> decide
  simp only [heading, List.mem_append, not_or]
  exact ⟨⟨⟨⟨label, by decide⟩, tag⟩, by decide⟩, said⟩

theorem shown_eq (level : Level) : finding.shown source file level = List.intercalate ['\n']
    (Snippet.text (finding.heading level) source finding.span.start (some finding.span.stop) file ::
      finding.helpRows) := rfl

/-- Below its heading, a finding is shown in the rows of its snippet. -/
theorem getElem?_shown (source : Text) (said : '\n' ∉ finding.message.toList) (oneLine : '\n' ∉ file)
    (level : Level) {number : Nat} (inside : number < 4) :
    (stretches '\n' (finding.shown source file level))[number + 1]? =
      (Snippet.rows source finding.span.start (some finding.span.stop) file)[number]? := by
  have single : ∀ row ∈ finding.heading level ::
      Snippet.rows source finding.span.start (some finding.span.stop) file, '\n' ∉ row :=
    List.forall_mem_cons.mpr ⟨feed_not_mem_heading said level, Snippet.feed_not_mem_rows oneLine⟩
  obtain ⟨rest, joined, apart⟩ := exists_behind (Snippet.text (finding.heading level) source
    finding.span.start (some finding.span.stop) file) finding.helpRows
  rw [shown_eq, joined, Snippet.text, getElem?_stretches_intercalate single apart,
    List.getElem?_cons_succ]
  exact Nat.succ_lt_succ inside

/-- A finding at a token of its text has the token underlined where it stands, and is shown with the line
of its number. -/
theorem shows_iff (within : token.In source) (whole : source = front ++ token.raw ++ rest)
    (size : token.span.start.offset = front.length) (place : finding.span = token.span)
    (said : '\n' ∉ finding.message.toList) (oneLine : '\n' ∉ file) (level : Level) :
    Snippet.Underlines (finding.shown source file level) front token.raw ∧
      (Snippet.Shows (finding.shown source file level) front token.raw rest ↔
        lineAt source (1 + front.count '\n' : Nat) = lineOf front token.raw rest) := by
  have line := within.start.line
  have column := within.start.column
  have taken : source.take front.length = front := by rw [whole, List.append_assoc, List.take_left]
  rw [size, Int.toNat_natCast, taken] at line column
  obtain ⟨sameLine, columns⟩ := within.columns
  obtain ⟨c, starts, -⟩ := within.digit
  have filled := List.length_pos_iff.mpr (List.ne_nil_of_mem (List.mem_of_mem_head? starts))
  have fourth := getElem?_shown source said oneLine level (show 2 < 4 by decide)
  have fifth := getElem?_shown source said oneLine level (show 3 < 4 by decide)
  obtain ⟨row, underlined, carets⟩ :=
    Snippet.underline_of_sameLine source file sameLine column columns filled
  have shownLine : (Snippet.rows source token.span.start (some token.span.stop) file)[2]? =
      some (Snippet.gutter token.span.start.line ++ lineAt source token.span.start.line) := rfl
  rw [place, underlined] at fifth
  rw [place, shownLine, line] at fourth
  rw [line] at carets
  have underlines : Snippet.Underlines (finding.shown source file level) front token.raw := by
    refine ⟨row, fifth, fun i => ?_⟩
    rw [carets, List.length_append, List.length_append, List.length_append, length_lastLine]
  refine ⟨underlines, ?_⟩
  -- The underline is right whatever line is shown, so the line alone decides.
  rw [Nat.cast_add, Nat.cast_one]
  constructor
  · rintro ⟨same, -⟩
    rw [fourth, Option.some.injEq] at same
    exact List.append_cancel_left same
  · intro same
    exact ⟨by rw [fourth, same], underlines⟩

/-- Each finding on a literal of a text has the literal underlined where it stands. It is shown with the
line of the literal exactly if only line feeds end lines before the literal, and nothing but carriage
returns comes behind what ends its own line. Where something else ends a line before the literal, the
number of its line is that of an earlier line, and what is shown is right only if that one reads the
same. -/
theorem shown_iff [Platform] (analyzed : analyze widths source = .ok reports) (oneLine : '\n' ∉ file) :
    ∀ report ∈ reports, ∀ finding ∈ report.findings, ∀ level : Level, ∃ front rest,
      source = front ++ report.literal.raw ++ rest ∧ finding.span.start.offset = front.length ∧
      Snippet.Underlines (finding.shown source file level) front report.literal.raw ∧
      (Snippet.Shows (finding.shown source file level) front report.literal.raw rest ↔
        (otherEnds front = 0 ∧ ∀ c ∈ pastEnd (rest.takeWhile (· != '\n')), c = '\r') ∨
          (0 < otherEnds front ∧ lineAt front (1 + front.count '\n' : Nat) =
            lineOf front report.literal.raw rest)) := by
  intro report among finding found level
  obtain ⟨tokens, scanned, matched⟩ := analyze_eq_ok_iff.mp analyzed
  obtain ⟨token, emitted, reported⟩ := Report.exists_token matched among
  have read := (Report.ofToken_eq_ok_iff.mp reported).1
  have place : finding.span = token.span :=
    (Report.span_of_mem reported found).trans (Report.span_eq reported)
  have within := Scan.in_of_ofText scanned token emitted
  obtain ⟨digit, afterPoint, others, munch⟩ := (Scan.ofText_eq_ok_iff.mp scanned).munch emitted
  have ascii := Literal.ascii_of_isNumber (Literal.exists_parse_iff.mp ⟨report.literal, read⟩)
  have plain := munch.endsLine_eq_false ascii
  obtain ⟨c, starts, -⟩ := digit
  have filled := List.ne_nil_of_mem (List.mem_of_mem_head? starts)
  obtain ⟨front, rest, whole, size⟩ := within.parts
  have said := feed_not_mem_message reported found
  rw [Literal.raw_of_parse read, place]
  obtain ⟨underlines, shows⟩ := shows_iff within whole size place said oneLine level
  refine ⟨front, rest, whole, size, underlines, shows.trans ?_⟩
  rw [whole]
  exact lineAt_eq_lineOf_iff plain filled

/-- Leading zeros alone in a text get a finding. -/
theorem exists_leading_zero [Platform] {span : Span}
    (scanned : Scan.ofText source = .ok [⟨['0', '7'], span⟩]) :
    ∃ report, analyze .default source = .ok [report] ∧ report.literal.raw = ['0', '7'] ∧
      ∃ finding ∈ report.findings, finding.span = span ∧ '\n' ∉ finding.message.toList := by
  obtain ⟨report, reported, raw, finding, found, place⟩ : ∃ report,
      Report.ofToken .default ⟨['0', '7'], span⟩ = .ok report ∧ report.literal.raw = ['0', '7'] ∧
        ∃ finding ∈ report.findings, finding.span = span :=
    ⟨_, rfl, rfl, _, List.mem_cons_self .., rfl⟩
  have matched : [(⟨['0', '7'], span⟩ : Token)].map (Report.ofToken .default) = [report].map .ok := by
    rw [List.map_singleton, reported]
    rfl
  exact ⟨report, analyze_eq_ok_iff.mpr ⟨_, scanned, matched⟩, raw, finding, found, place,
    feed_not_mem_message reported found⟩

/-- Leading zeros on a second line, where lines end in a carriage return and a line feed. -/
theorem shown_behind_return : ∃ report,
    analyze .default ['a', '\r', '\n', ' ', '0', '7', '\r', '\n'] = .ok [report] ∧
      ∃ finding ∈ report.findings, Snippet.Shows
        (finding.shown ['a', '\r', '\n', ' ', '0', '7', '\r', '\n'] unnamedFile .warn)
        ['a', '\r', '\n', ' '] ['0', '7'] ['\r', '\n'] := by
  have scanned : Scan.ofText ['a', '\r', '\n', ' ', '0', '7', '\r', '\n'] =
      .ok [⟨['0', '7'], ⟨⟨2, 2, 4⟩, ⟨2, 4, 6⟩⟩⟩] := by
    obtain ⟨last, ran⟩ : ∃ last,
        (Scan.start ['a', '\r', '\n', ' ', '0', '7', '\r', '\n']).run =
          (⟨last, [⟨['0', '7'], ⟨⟨2, 2, 4⟩, ⟨2, 4, 6⟩⟩⟩]⟩, none) :=
      ⟨_, Scan.run_eq_of_runWithin (Nat.le_refl 8) rfl⟩
    exact Scan.ofText_of_run ran
  obtain ⟨report, analyzed, raw, finding, found, place, -⟩ := exists_leading_zero scanned
  obtain ⟨front, rest, whole, size, -, shows⟩ :=
    shown_iff analyzed (show '\n' ∉ unnamedFile by decide) report List.mem_cons_self finding found .warn
  rw [raw] at whole shows
  have before : front.length = 4 := by
    rw [place] at size
    simp only at size
    omega
  obtain ⟨same, behind⟩ := List.append_inj
    (show ['a', '\r', '\n', ' '] ++ ['0', '7', '\r', '\n'] = front ++ (['0', '7'] ++ rest) by
      rw [← List.append_assoc, ← whole]
      rfl) before.symm
  obtain rfl := same
  obtain rfl : ['\r', '\n'] = rest := by simpa using behind
  exact ⟨report, analyzed, finding, found, shows.mpr (.inl (by decide))⟩

/-- A form feed ends a line and a scan does not count it. Behind it and a line feed the number of the line
is two, and the second line is what is left of the first. -/
theorem shown_other_behind_form_feed : ∃ report,
    analyze .default ['\x0c', '\n', '0', '7'] = .ok [report] ∧ report.literal.raw = ['0', '7'] ∧
      ∃ finding ∈ report.findings,
        (stretches '\n' (finding.shown ['\x0c', '\n', '0', '7'] unnamedFile .warn))[3]? =
          some ['2', ' ', '|', ' '] ∧
        ¬ Snippet.Shows (finding.shown ['\x0c', '\n', '0', '7'] unnamedFile .warn)
          ['\x0c', '\n'] ['0', '7'] [] := by
  have scanned : Scan.ofText ['\x0c', '\n', '0', '7'] =
      .ok [⟨['0', '7'], ⟨⟨2, 1, 2⟩, ⟨2, 3, 4⟩⟩⟩] := by
    obtain ⟨last, ran⟩ : ∃ last, (Scan.start ['\x0c', '\n', '0', '7']).run =
        (⟨last, [⟨['0', '7'], ⟨⟨2, 1, 2⟩, ⟨2, 3, 4⟩⟩⟩]⟩, none) :=
      ⟨_, Scan.run_eq_of_runWithin (Nat.le_refl 4) rfl⟩
    exact Scan.ofText_of_run ran
  obtain ⟨report, analyzed, raw, finding, found, place, said⟩ := exists_leading_zero scanned
  have second : lineAt ['\x0c', '\n', '0', '7'] 2 = [] := by
    have ended : lines ['\x0c', '\n', '0', '7'] = ['\x0c'] :: ['\n'] :: lines ['0', '7'] := by
      rw [lines_cons, lines_cons]
      rfl
    rw [lineAt, ended]
    rfl
  have fourth := getElem?_shown ['\x0c', '\n', '0', '7'] said (show '\n' ∉ unnamedFile by decide) .warn
    (show 2 < 4 by decide)
  have shownLine : (Snippet.rows ['\x0c', '\n', '0', '7'] finding.span.start (some finding.span.stop)
      unnamedFile)[2]? = some (['2', ' ', '|', ' '] ++ lineAt ['\x0c', '\n', '0', '7'] 2) := by
    rw [place]
    rfl
  rw [shownLine, second, List.append_nil] at fourth
  refine ⟨report, analyzed, raw, finding, found, fourth, fun shows => ?_⟩
  have line := shows.line
  rw [fourth] at line
  exact absurd line (by decide)

end Finding
end NumeralStyle
