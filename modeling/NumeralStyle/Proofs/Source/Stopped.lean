import Mathlib.Logic.Relation
import NumeralStyle.CommandLine.Run
import NumeralStyle.Editor.Diagnostic
import NumeralStyle.Proofs.Check.Reported
import NumeralStyle.Proofs.Source.Enclosed
import NumeralStyle.Proofs.Source.Reached

/-! Why scans stop. No step of a scan looks for more than what is ahead, so wherever a text is at fault
the fault is told with its place. There is one exception: a character literal that the text ends behind
the backslash of an escape. Then, and only then, there is nothing to tell (`Scan.ofText_reports_iff`). -/
namespace NumeralStyle
open CharClass Text

/-- A character literal that ends, with its text, behind the backslash of an escape. -/
inductive CutLiteral : Text → Prop
  | first {lead : Text} : lead ∈ Construct.leads .character → CutLiteral (lead ++ ['\'', '\\'])
  | later {lead body : Text} (c : Char) : lead ∈ Construct.leads .character →
      Escaped InCharacter body → CutLiteral (lead ++ ['\'', '\\'] ++ (c :: body ++ ['\\']))

theorem CutLiteral.ne_nil {text : Text} (cut : CutLiteral text) : text ≠ [] := by
  cases cut <;> simp

namespace Lexeme

variable {afterPoint : Bool} {fault fault' : ScanFault} {start start' count length : Nat} {text : Text}

/-- How many characters of the text a lexeme takes, or has taken when it turns out to be broken. -/
def reach : Lexeme → Nat
  | .number length => length
  | .skip length => length
  | .broken _ _ length => length
  | .cutEscape length => length

/-! ## Literals that are cut -/

theorem orBroken_ne_cutEscape {stop : Nat} {found : Option Nat} :
    orBroken fault start stop found ≠ .cutEscape length := by
  cases found <;> simp [orBroken]

theorem escapedCharacter_eq_cutEscape_iff :
    escapedCharacter start count text = .cutEscape length ↔
      ∃ body, text = body ++ ['\\'] ∧ Escaped InCharacter body ∧ length = count + text.length := by
  constructor
  · intro found
    obtain ⟨body, rest, whole, escaped, ⟨-, same⟩ | ⟨rfl, same⟩ | same⟩ :=
      escapedCharacter_cases start count text
    · cases found.symm.trans same
    · exact ⟨body, whole, escaped, Lexeme.cutEscape.inj (found.symm.trans same)⟩
    · cases found.symm.trans same
  · rintro ⟨body, rfl, escaped, rfl⟩
    rw [escapedCharacter_append escaped, escapedCharacter, List.length_append, Nat.add_assoc]
    rfl

/-- Only a character literal that starts with an escape can be cut. -/
theorem character_eq_cutEscape (found : character start text = .cutEscape length) :
    ['\\'] <+: text := by
  unfold character at found
  split at found
  · rename_i rest
    exact ⟨rest, rfl⟩
  · cases found
  · cases found

theorem lettered_eq_cutEscape (found : lettered text = .cutEscape length) :
    ['b', '\'', '\\'] <+: text := by
  unfold lettered word at found
  split at found
  · exact absurd found orBroken_ne_cutEscape
  · exact absurd found orBroken_ne_cutEscape
  · rename_i rest
    obtain ⟨behind, rfl⟩ := character_eq_cutEscape found
    exact ⟨behind, rfl⟩
  all_goals try split at found
  all_goals first | exact absurd found orBroken_ne_cutEscape | cases found

theorem opening_of_cutEscape (found : read afterPoint text = .cutEscape length) :
    ∃ lead ∈ Construct.leads .character, lead ++ ['\'', '\\'] <+: text := by
  unfold read at found
  split at found
  · cases found
  · cases found
  · cases found
  · exact absurd found orBroken_ne_cutEscape
  · exact absurd found orBroken_ne_cutEscape
  · obtain ⟨behind, rfl⟩ := character_eq_cutEscape found
    exact ⟨[], by decide, behind, rfl⟩
  · split at found
    · cases found
    · split at found
      · exact ⟨['b'], by decide, lettered_eq_cutEscape found⟩
      · cases found

theorem read_eq_cutEscape_iff :
    read afterPoint text = .cutEscape length ↔ CutLiteral text ∧ length = text.length := by
  constructor
  · intro found
    obtain ⟨lead, led, behind, rfl⟩ := opening_of_cutEscape found
    rw [read_character led] at found
    cases behind with
    | nil =>
      cases found
      rw [List.append_nil]
      exact ⟨.first led, by simp⟩
    | cons c behind =>
      rw [escapedCharacter, escapedCharacter_eq_cutEscape_iff] at found
      obtain ⟨body, rfl, escaped, rfl⟩ := found
      refine ⟨.later c led escaped, ?_⟩
      simp only [List.length_append, List.length_cons, List.length_nil]
      omega
  · rintro ⟨cut, rfl⟩
    cases cut with
    | @first lead led =>
      have found : read afterPoint (lead ++ ['\'', '\\'] ++ []) =
          escapedCharacter lead.length (lead.length + 1) ['\\'] := read_character led
      rw [List.append_nil] at found
      rw [found]
      simp [escapedCharacter]
    | @later lead body c led escaped =>
      rw [read_character led, List.cons_append, escapedCharacter, escapedCharacter_eq_cutEscape_iff]
      refine ⟨body, rfl, escaped, ?_⟩
      simp only [List.length_append, List.length_cons, List.length_nil]
      omega

/-! ## How far a lexeme reaches -/

theorem stop_of_orBroken {stop : Nat} {found : Option Nat}
    (broken : orBroken fault start stop found = .broken fault' start' length) : length = stop := by
  cases found with
  | none =>
    cases broken
    rfl
  | some => cases broken

theorem character_reach_le (broken : character start text = .broken fault start' length) :
    length ≤ start + 1 + text.length := by
  unfold character at broken
  split at broken
  · rename_i rest
    obtain ⟨body, behind, whole, -, ⟨-, same⟩ | ⟨-, same⟩ | same⟩ :=
      escapedCharacter_cases start (start + 1) ('\\' :: rest)
    · cases broken.symm.trans same
    · cases broken.symm.trans same
    · cases broken.symm.trans same
      rw [whole, List.length_append]
      omega
  · cases broken
  · cases broken

theorem lettered_reach_le (broken : lettered text = .broken fault start length) :
    length ≤ text.length := by
  by_cases opened : ∃ opener, Opener opener ∧ opener <+: text
  · obtain ⟨opener, opens, body, rfl⟩ := opened
    rw [List.length_append]
    cases opens with
    | @string c either =>
      have same : lettered ([c, '"'] ++ body) = string 1 body := by
        rcases either with rfl | rfl <;> rfl
      obtain rfl := stop_of_orBroken (same.symm.trans broken)
      exact Nat.le_refl _
    | character =>
      have opened : character 1 body = .broken fault start length := broken
      have within := character_reach_le opened
      simp only [List.length_cons, List.length_nil]
      omega
    | raw hashes either =>
      rw [lettered_raw either] at broken
      obtain rfl := stop_of_orBroken broken
      simp only [List.length_append, List.length_replicate, List.length_singleton]
      omega
  · rw [lettered_eq_word fun opener opens leads => opened ⟨opener, opens, leads⟩] at broken
    cases broken

theorem broken_reach_le (broken : read afterPoint text = .broken fault start length) :
    length ≤ text.length := by
  unfold read at broken
  split at broken
  · cases broken
  · cases broken
    exact Nat.zero_le _
  · cases broken
  · obtain rfl := stop_of_orBroken broken
    exact Nat.le_refl _
  · obtain rfl := stop_of_orBroken broken
    simp only [List.length_cons]
    omega
  · have short := character_reach_le broken
    simp only [List.length_cons]
    omega
  · split at broken
    · cases broken
    · split at broken
      · exact lettered_reach_le broken
      · cases broken

/-- Nothing that is read reaches beyond the end of the text. -/
theorem read_reach_le (afterPoint : Bool) (filled : text ≠ []) :
    (read afterPoint text).reach ≤ text.length := by
  cases found : read afterPoint text with
  | number length =>
    obtain ⟨raw, rest, rfl, rfl, -⟩ := exists_munch_of_read found
    simp [reach]
  | skip length =>
    obtain ⟨used, rest, rfl, rfl, -⟩ := read_skips filled found
    simp [reach]
  | broken fault start length => exact broken_reach_le found
  | cutEscape length =>
    obtain ⟨-, rfl⟩ := read_eq_cutEscape_iff.mp found
    exact Nat.le_refl _

/-! ## Where a lexeme is broken -/

/-- What is broken has an opener on its line, and the search for its end has gone past that, unless it
is a NUL character, from which no search starts. -/
structure BrokenIn (text : Text) (fault : ScanFault) (start length : Nat) : Prop where
  opener : ∃ c, text[start]? = some c ∧ c ≠ '\n'
  searched : length = 0 ↔ fault = .nul

theorem fault_of_orBroken {stop : Nat} {found : Option Nat}
    (broken : orBroken fault start stop found = .broken fault' start' length) : fault' = fault := by
  cases found with
  | none =>
    cases broken
    rfl
  | some => cases broken

/-- The opener of what `orBroken` finds broken stands where that starts. -/
theorem brokenIn_of_orBroken {stop : Nat} {found : Option Nat} {opener : Char}
    (broken : orBroken fault start stop found = .broken fault' start' length)
    (opens : text[start]? = some opener) (sameLine : opener ≠ '\n') (past : 0 < stop)
    (other : fault ≠ .nul) : BrokenIn text fault' start' length := by
  obtain rfl := fault_of_orBroken broken
  obtain rfl := start_of_orBroken broken
  obtain rfl := stop_of_orBroken broken
  exact ⟨⟨opener, opens, sameLine⟩, by simp [Nat.ne_of_gt past, other]⟩

theorem brokenIn_of_character {behind : Text} (opens : text[start]? = some '\'')
    (broken : character start behind = .broken fault start' length) :
    BrokenIn text fault start' length := by
  obtain rfl := start_of_character broken
  refine ⟨⟨'\'', opens, by decide⟩, ?_⟩
  unfold character at broken
  split at broken
  · rename_i rest
    obtain ⟨body, _, -, -, ⟨-, same⟩ | ⟨-, same⟩ | same⟩ :=
      escapedCharacter_cases start' (start' + 1) ('\\' :: rest)
    · cases broken.symm.trans same
    · cases broken.symm.trans same
    · cases broken.symm.trans same
      simp
  · cases broken
  · cases broken

theorem brokenIn_of_lettered (broken : lettered text = .broken fault start length) :
    BrokenIn text fault start length := by
  by_cases opened : ∃ opener, Opener opener ∧ opener <+: text
  · obtain ⟨opener, opens, body, rfl⟩ := opened
    cases opens with
    | @string c either =>
      have same : lettered ([c, '"'] ++ body) = string 1 body := by
        rcases either with rfl | rfl <;> rfl
      exact brokenIn_of_orBroken (same.symm.trans broken) rfl (by decide) (by omega) (by decide)
    | character =>
      have opened : character 1 body = .broken fault start length := broken
      exact brokenIn_of_character rfl opened
    | raw hashes either =>
      rw [lettered_raw either] at broken
      have past (lead : Text) : 0 < lead.length + hashes + 1 + body.length := by omega
      rcases either with rfl | rfl | rfl
      · exact brokenIn_of_orBroken broken rfl (by decide) (past _) (by decide)
      · exact brokenIn_of_orBroken broken rfl (by decide) (past _) (by decide)
      · exact brokenIn_of_orBroken broken rfl (by decide) (past _) (by decide)
  · rw [lettered_eq_word fun opener opens leads => opened ⟨opener, opens, leads⟩] at broken
    cases broken

theorem brokenIn_of_read {afterPoint : Bool}
    (broken : read afterPoint text = .broken fault start length) :
    BrokenIn text fault start length := by
  unfold read at broken
  split at broken
  · cases broken
  · cases broken
    exact ⟨⟨'\x00', rfl, by decide⟩, by simp⟩
  · cases broken
  · exact brokenIn_of_orBroken broken rfl (by decide) (Nat.succ_pos _) (by decide)
  · exact brokenIn_of_orBroken broken rfl (by decide) (by omega) (by decide)
  · exact brokenIn_of_character rfl broken
  · split at broken
    · cases broken
    · split at broken
      · exact brokenIn_of_lettered broken
      · cases broken

end Lexeme

namespace Scan

variable {scan last : Scan} {stop : Stop} {source : Text}

/-- One scan goes on to another in a single step. -/
def GoesOn (scan next : Scan) : Prop := scan.isDone = false ∧ scan.step = (next, none)

/-- A run stops where a step does to which the steps before it have gone on. -/
theorem run_eq_stop_iff :
    scan.run.2 = some stop ↔
      ∃ last, Relation.ReflTransGen GoesOn scan last ∧ last.isDone = false ∧
        last.step.2 = some stop := by
  constructor
  · intro stopped
    fun_induction run scan with
    | case1 scan more next stepped ih =>
      obtain ⟨last, goes, halted⟩ := ih stopped
      exact ⟨last, .head ⟨more, stepped⟩ goes, halted⟩
    | case2 scan more next stop' stepped =>
      exact ⟨scan, .refl, more, by rw [stepped]; exact stopped⟩
    | case3 scan done => cases stopped
  · rintro ⟨last, goes, more, stopped⟩
    induction goes using Relation.ReflTransGen.head_induction_on with
    | refl => rw [run_of_stop more (Prod.ext rfl stopped)]
    | head goesOn _ ih => rw [run_of_step goesOn.1 goesOn.2, ih]

theorem ofText_eq_error_iff : ofText source = .error stop ↔ (start source).run.2 = some stop := by
  unfold ofText
  split <;> rename_i ran <;> simp [ran]

theorem step_eq_cutEscape_iff :
    scan.step.2 = some .cutEscape ↔ ∃ length, scan.lexeme = .cutEscape length := by
  cases found : scan.lexeme <;> simp [step, found]

/-- The scan of a text comes to a literal that is cut. -/
def ComesToCut (source : Text) : Prop :=
  ∃ scan, Relation.ReflTransGen GoesOn (start source) scan ∧ CutLiteral scan.cursor.ahead

theorem ofText_eq_cutEscape_iff : ofText source = .error .cutEscape ↔ ComesToCut source := by
  rw [ofText_eq_error_iff, run_eq_stop_iff]
  constructor
  · rintro ⟨last, goes, more, stopped⟩
    obtain ⟨length, found⟩ := step_eq_cutEscape_iff.mp stopped
    exact ⟨last, goes, (Lexeme.read_eq_cutEscape_iff.mp found).1⟩
  · rintro ⟨last, goes, cut⟩
    refine ⟨last, goes, by simpa [isDone] using cut.ne_nil, ?_⟩
    exact step_eq_cutEscape_iff.mpr ⟨_, Lexeme.read_eq_cutEscape_iff.mpr ⟨cut, rfl⟩⟩

theorem checkSource_eq_cutEscape_iff [Platform] {settings : Settings} {file : Text}
    {sofar : CommandLine.Outcome} :
    CommandLine.checkSource settings file sofar source = .error .cutEscape ↔
      ofText source = .error .cutEscape := by
  rw [← @analyze_eq_scan_iff settings.widths]
  unfold CommandLine.checkSource
  split <;> rename_i found <;> rw [found] <;> simp

theorem ofSource_eq_cutEscape_iff [Platform] {widths : Widths} :
    Editor.Diagnostic.ofSource widths source = .error .cutEscape ↔
      ofText source = .error .cutEscape := by
  rw [← @analyze_eq_scan_iff widths]
  unfold Editor.Diagnostic.ofSource
  split <;> rename_i found <;> rw [found] <;> simp

/-- A text has its numbers found or its fault told, unless its scan comes to a character literal that is
cut: then neither the command line nor an editor has anything to tell. In no text does a step look for
more than what is ahead. -/
theorem ofText_reports_iff [Platform] (source : Text) :
    (((∃ tokens, ofText source = .ok tokens) ∨ ∃ error, ofText source = .error (.fault error)) ↔
        ¬ ComesToCut source) ∧
      (∀ settings file sofar, CommandLine.checkSource settings file sofar source =
        .error .cutEscape ↔ ComesToCut source) ∧
      (∀ widths, Editor.Diagnostic.ofSource widths source = .error .cutEscape ↔ ComesToCut source) ∧
      ∀ scan, Reached source scan → scan.isDone = false →
        scan.lexeme.reach ≤ scan.cursor.ahead.length := by
  rw [← ofText_eq_cutEscape_iff]
  refine ⟨?_, fun _ _ _ => checkSource_eq_cutEscape_iff, fun _ => ofSource_eq_cutEscape_iff,
    fun scan _ more => Lexeme.read_reach_le _ (by simpa [isDone] using more)⟩
  cases found : ofText source with
  | ok tokens => simp
  | error stop => cases stop <;> simp

/-- A character literal that only lacks its last quote is told of, and searched to the end of the text. -/
theorem ofText_reports_open_character :
    (∃ error, ofText ['\'', '\\', 'n'] = .error (.fault error)) ∧
      Reached ['\'', '\\', 'n'] (start ['\'', '\\', 'n']) ∧
      (start ['\'', '\\', 'n']).lexeme.reach ≤ 3 := by
  obtain ⟨-, -, -, within⟩ := ofText_reports_iff ['\'', '\\', 'n']
  have told : ofText ['\'', '\\', 'n'] = .error (.fault ⟨.openCharacter, ⟨1, 1, 0⟩⟩) := by cbv
  exact ⟨⟨_, told⟩, .start, within _ .start rfl⟩

/-- A character literal that ends behind its first backslash is not told of. -/
theorem ofText_lone_escape :
    ¬ ((∃ tokens, ofText ['\'', '\\'] = .ok tokens) ∨
      ∃ error, ofText ['\'', '\\'] = .error (.fault error)) := by
  have cut : ofText ['\'', '\\'] = .error .cutEscape := by cbv
  simp [cut]

/-- A string that ends in the same way is. -/
example : ofText ['"', '\\'] = .error (.fault ⟨.openString, ⟨1, 1, 0⟩⟩) := by cbv

end Scan
end NumeralStyle
