import NumeralStyle.Proofs.Check.Following
import NumeralStyle.Report

/-! The reports of a source text. A source text is analyzed if it is scanned and each of its tokens has
a report (`analyze_eq_ok_iff`), and then its reports match its tokens one by one. -/
namespace NumeralStyle

namespace Report

variable {widths : Widths} {token : Token} {report : Report} {tokens : List Token}
  {reports : List Report}

/-! ## The report on a token -/

theorem span_eq [Platform] (reported : ofToken widths token = .ok report) : report.span = token.span :=
  (ofToken_eq_ok_iff.mp reported).2.2.1

theorem span_of_mem [Platform] {finding : Finding} (reported : ofToken widths token = .ok report)
    (found : finding ∈ report.findings) : finding.span = report.span := by
  obtain ⟨-, -, span, findings⟩ := ofToken_eq_ok_iff.mp reported
  rw [findings] at found
  obtain ⟨advice, -, rfl⟩ := List.mem_map.mp found
  exact span.symm

/-! ## The reports on tokens -/

theorem ofTokens_eq_iff [Platform] : ofTokens widths tokens = (reports, none) ↔
    tokens.map (ofToken widths) = reports.map .ok := by
  induction tokens generalizing reports with
  | nil => cases reports <;> simp [ofTokens]
  | cons token tokens ih =>
    cases found : ofToken widths token with
    | error fault => cases reports <;> simp [ofTokens, found]
    | ok report =>
      cases reports with
      | nil => simp [ofTokens, found]
      | cons first others =>
        simp only [ofTokens, found, Prod.mk.injEq, List.cons.injEq, List.map_cons, Except.ok.injEq,
          and_assoc, ← ih]
        refine and_congr_right fun _ => ?_
        rw [Prod.ext_iff]

/-- Tokens whose reports end at one that is no literal have such a token. -/
theorem exists_malformed [Platform] {malformed : Malformed}
    (found : (ofTokens widths tokens).2 = some (.malformed malformed)) :
    ∃ token ∈ tokens, Literal.parse token.raw = .error malformed.fault := by
  induction tokens with
  | nil => cases found
  | cons token tokens ih =>
    rw [ofTokens] at found
    cases made : ofToken widths token with
    | ok report =>
      rw [made] at found
      obtain ⟨unparsed, among, failed⟩ := ih found
      exact ⟨unparsed, List.mem_cons_of_mem _ among, failed⟩
    | error reason =>
      rw [made] at found
      cases found
      refine ⟨token, List.mem_cons_self, ?_⟩
      unfold ofToken at made
      split at made
      · rename_i failed
        cases made
        exact failed
      · split at made <;> cases made

theorem exists_report [Platform] (matched : tokens.map (ofToken widths) = reports.map .ok)
    {token : Token} (emitted : token ∈ tokens) :
    ∃ report ∈ reports, ofToken widths token = .ok report := by
  have member : ofToken widths token ∈ reports.map .ok := by
    rw [← matched]
    exact List.mem_map_of_mem emitted
  obtain ⟨report, among, same⟩ := List.mem_map.mp member
  exact ⟨report, among, same.symm⟩

theorem exists_token [Platform] (matched : tokens.map (ofToken widths) = reports.map .ok)
    {report : Report} (among : report ∈ reports) :
    ∃ token ∈ tokens, ofToken widths token = .ok report := by
  have member : Except.ok report ∈ tokens.map (ofToken widths) := by
    rw [matched]
    exact List.mem_map_of_mem among
  exact List.mem_map.mp member

theorem map_of_matched [Platform] {α : Type} {f : Token → α} {g : Report → α}
    (matched : tokens.map (ofToken widths) = reports.map .ok)
    (same : ∀ token ∈ tokens, ∀ report ∈ reports,
      ofToken widths token = .ok report → f token = g report) :
    tokens.map f = reports.map g := by
  induction tokens generalizing reports with
  | nil =>
    obtain rfl := List.map_eq_nil_iff.mp matched.symm
    rfl
  | cons token tokens ih =>
    cases reports with
    | nil => cases matched
    | cons report reports =>
      obtain ⟨reported, behind⟩ := List.cons.inj matched
      have rest := ih behind fun token among report found =>
        same token (by simp [among]) report (by simp [found])
      rw [List.map_cons, List.map_cons, same token (by simp) report (by simp) reported, rest]

theorem filterMap_of_matched [Platform] {α : Type} {f : Token → Option α} {g : Report → Option α}
    (matched : tokens.map (ofToken widths) = reports.map .ok)
    (same : ∀ token ∈ tokens, ∀ report ∈ reports,
      ofToken widths token = .ok report → f token = g report) :
    tokens.filterMap f = reports.filterMap g := by
  have maps := congrArg (List.filterMap id) (map_of_matched matched same)
  rwa [List.filterMap_map, List.filterMap_map] at maps

end Report

variable {widths : Widths} {source : Text} {reports : List Report}

/-- A source text is analyzed exactly if it is scanned and each of its tokens has a report. -/
theorem analyze_eq_ok_iff [Platform] : analyze widths source = .ok reports ↔
    ∃ tokens, Scan.ofText source = .ok tokens ∧
      tokens.map (Report.ofToken widths) = reports.map .ok := by
  unfold analyze
  cases scanned : Scan.ofText source with
  | error stop => simp
  | ok tokens =>
    simp only [Except.ok.injEq, exists_eq_left', ← Report.ofTokens_eq_iff]
    cases made : Report.ofTokens widths tokens with
    | mk found fault => cases fault <;> simp

theorem analyze_eq_scan_iff [Platform] {stop : Stop} :
    analyze widths source = .error (.scan stop) ↔ Scan.ofText source = .error stop := by
  unfold analyze
  cases scanned : Scan.ofText source with
  | error stop => simp
  | ok tokens =>
    dsimp only
    split <;> simp

/-- A source text that is not analyzed for a number in it is scanned, and one of its tokens is no
literal. -/
theorem exists_unparsed [Platform] {malformed : Malformed}
    (failed : analyze widths source = .error (.report (.malformed malformed))) :
    ∃ tokens, Scan.ofText source = .ok tokens ∧
      ∃ token ∈ tokens, Literal.parse token.raw = .error malformed.fault := by
  unfold analyze at failed
  cases scanned : Scan.ofText source with
  | error stop =>
    rw [scanned] at failed
    cases failed
  | ok tokens =>
    rw [scanned] at failed
    dsimp only at failed
    split at failed
    · rename_i made
      cases failed
      exact ⟨tokens, rfl, Report.exists_malformed (congrArg Prod.snd made)⟩
    · cases failed

end NumeralStyle
