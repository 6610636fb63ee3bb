import NumeralStyle.Proofs.Source.Munch
import NumeralStyle.Source.Scan

/-! A whole scan. `Scanned` says of a cursor which tokens the scan finds from there to the end of the
text, going past one lexeme at a time and stopping nowhere. `ofText_eq_ok_iff` says that the tokens of
a text are those found from its start. -/
namespace NumeralStyle
open CharClass

namespace Lexeme

/-- What opens neither a comment nor a quoted text is told by its first character. -/
theorem read_of_other {afterPoint : Bool} {c : Char} {rest : Text}
    (plain : c ≠ '\x00' ∧ c ≠ '"' ∧ c ≠ '\'')
    (noComment : c = '/' → ∀ d ∈ rest.head?, d ≠ '/' ∧ d ≠ '*') :
    read afterPoint (c :: rest) =
      if isDigit c then .number (numberText afterPoint (c :: rest)).length
      else if isIdentStart c then lettered (c :: rest) else .skip 1 := by
  obtain ⟨noNul, noQuote, noSingle⟩ := plain
  unfold read
  split <;> simp_all

theorem read_of_isIdentChar {afterPoint : Bool} {c : Char} {rest : Text}
    (ident : isIdentChar c = true) :
    read afterPoint (c :: rest) =
      if isDigit c then .number (numberText afterPoint (c :: rest)).length
      else if isIdentStart c then lettered (c :: rest) else .skip 1 := by
  have apart : ∀ d ∈ ['\x00', '/', '"', '\''], c ≠ d := by
    rintro d member rfl
    have outside : ∀ d ∈ ['\x00', '/', '"', '\''], isIdentChar d = false := by decide
    exact absurd ident (by simp [outside c member])
  simp only [List.mem_cons, List.not_mem_nil, or_false, forall_eq_or_imp, forall_eq] at apart
  obtain ⟨noNul, noSlash, noQuote, noSingle⟩ := apart
  exact read_of_other ⟨noNul, noQuote, noSingle⟩ fun slash => absurd slash noSlash

/-- What starts with a digit is a number, as far as a number reaches there. -/
theorem read_number {afterPoint : Bool} {raw rest : Text} (digit : StartsWithDigit raw)
    (munch : Munch afterPoint raw rest) : read afterPoint (raw ++ rest) = .number raw.length := by
  obtain ⟨c, starts, isDigit⟩ := digit
  obtain ⟨others, rfl⟩ := List.head?_eq_some_iff.mp starts
  have taken := numberText_of_munch munch
  rw [List.cons_append] at taken ⊢
  rw [read_of_isIdentChar (isIdentChar_of_isDigit isDigit), if_pos isDigit, taken]

theorem orBroken_ne_number {fault : ScanFault} {start stop length : Nat} {found : Option Nat} :
    orBroken fault start stop found ≠ .number length := by
  cases found <;> simp [orBroken]

theorem escapedCharacter_ne_number {start count length : Nat} {text : Text} :
    escapedCharacter start count text ≠ .number length := by
  fun_induction escapedCharacter start count text <;> simp_all

theorem character_ne_number {start length : Nat} {text : Text} :
    character start text ≠ .number length := by
  unfold character
  split
  · exact escapedCharacter_ne_number
  · simp
  · simp

theorem lettered_ne_number {text : Text} {length : Nat} : lettered text ≠ .number length := by
  unfold lettered word
  split
  · exact orBroken_ne_number
  · exact orBroken_ne_number
  · exact character_ne_number
  all_goals try split
  all_goals first | exact orBroken_ne_number | simp

/-- Nothing but a number starts with a digit. -/
theorem exists_munch_of_read {afterPoint : Bool} {text : Text} {length : Nat}
    (found : read afterPoint text = .number length) :
    ∃ raw rest, text = raw ++ rest ∧ raw.length = length ∧ StartsWithDigit raw ∧
      Munch afterPoint raw rest := by
  unfold read at found
  split at found
  · simp at found
  · simp at found
  · simp at found
  · exact absurd found orBroken_ne_number
  · exact absurd found orBroken_ne_number
  · exact absurd found character_ne_number
  · rename_i c others _ _ _ _ _
    split at found
    · rename_i digit
      obtain ⟨rest, whole, munch⟩ := munch_numberText afterPoint (c :: others)
      refine ⟨_, rest, whole, by simpa using found, ⟨c, ?_, digit⟩, munch⟩
      have leads := takeWhile_prefix_numberText afterPoint (c :: others)
      rw [List.takeWhile_cons_of_pos (isIdentChar_of_isDigit digit)] at leads
      obtain ⟨behind, same⟩ := leads
      simp [← same]
    · split at found
      · exact absurd found lettered_ne_number
      · simp at found

end Lexeme

/-- The tokens of a scan from a cursor to the end of its text. -/
inductive Scanned : Cursor → List Token → Prop
  | done {cursor : Cursor} : cursor.ahead = [] → Scanned cursor []
  | skip {cursor : Cursor} {length : Nat} {tokens : List Token} : cursor.ahead ≠ [] →
      Lexeme.read cursor.isAfterPoint cursor.ahead = .skip length →
      Scanned (cursor.advance length) tokens → Scanned cursor tokens
  | number {cursor : Cursor} {raw rest : Text} {tokens : List Token} :
      cursor.ahead = raw ++ rest → Lexeme.StartsWithDigit raw →
      Lexeme.Munch cursor.isAfterPoint raw rest → Scanned (cursor.advance raw.length) tokens →
      Scanned cursor
        (⟨raw, ⟨cursor.position, (cursor.advance raw.length).position⟩⟩ :: tokens)

namespace Scan

theorem run_of_step {scan next : Scan} (more : scan.isDone = false)
    (stepped : scan.step = (next, none)) : scan.run = next.run := by
  rw [run]
  split
  · split <;> simp_all
  · contradiction

theorem run_of_stop {scan next : Scan} {stop : Stop} (more : scan.isDone = false)
    (stepped : scan.step = (next, some stop)) : scan.run = (next, some stop) := by
  rw [run]
  split
  · split <;> simp_all
  · contradiction

theorem run_of_isDone {scan : Scan} (done : scan.isDone = true) : scan.run = (scan, none) := by
  rw [run]
  simp [done]

theorem isDone_iff {scan : Scan} : scan.isDone = true ↔ scan.cursor.ahead = [] := by
  simp [isDone]

theorem step_skip {scan : Scan} {length : Nat} (found : scan.lexeme = .skip length) :
    scan.step = (⟨scan.cursor.advance length, scan.found⟩, none) := by
  simp [step, found]

theorem step_number {scan : Scan} {raw rest : Text} (whole : scan.cursor.ahead = raw ++ rest)
    (digit : Lexeme.StartsWithDigit raw) (munch : Lexeme.Munch scan.cursor.isAfterPoint raw rest) :
    scan.step = (⟨scan.cursor.advance raw.length,
      ⟨raw, ⟨scan.cursor.position, (scan.cursor.advance raw.length).position⟩⟩ :: scan.found⟩,
      none) := by
  have found : scan.lexeme = .number raw.length := by
    rw [lexeme, whole, Lexeme.read_number digit munch]
  simp [step, found, whole]

/-- The numbers of a text, or the reason that there are none, are what a run from its start ends with. -/
theorem ofText_of_run {text : Text} {last : Cursor} {found : List Token} {stop : Option Stop}
    (ran : (start text).run = (⟨last, found⟩, stop)) :
    ofText text = stop.elim (.ok found.reverse) .error := by
  cases stop <;> simp [ofText, ran, Scan.tokens]

/-- A run that stops nowhere goes past one lexeme after the other. -/
theorem scanned_of_run {scan last : Scan} (ran : scan.run = (last, none)) :
    ∃ tokens, last.tokens = scan.tokens ++ tokens ∧ Scanned scan.cursor tokens := by
  fun_induction run scan with
  | case1 scan more next stepped ih =>
    obtain ⟨tokens, whole, scanned⟩ := ih ran
    have filled : scan.cursor.ahead ≠ [] := fun empty => by simp [isDone, empty] at more
    cases found : scan.lexeme with
    | skip length =>
      rw [step_skip found] at stepped
      cases stepped
      exact ⟨tokens, whole, .skip filled found scanned⟩
    | number length =>
      obtain ⟨raw, rest, same, rfl, digit, munch⟩ := Lexeme.exists_munch_of_read found
      rw [step_number same digit munch] at stepped
      cases stepped
      exact ⟨_, by simpa [Scan.tokens] using whole, .number same digit munch scanned⟩
    | broken fault start length => simp [step, found] at stepped
    | cutEscape length => simp [step, found] at stepped
  | case2 scan more next stop stepped => simp at ran
  | case3 scan done =>
    cases ran
    exact ⟨[], by simp, .done (isDone_iff.mp (by simpa using done))⟩

theorem run_of_scanned {cursor : Cursor} {tokens : List Token} (scanned : Scanned cursor tokens)
    (found : List Token) :
    ∃ last : Scan, run ⟨cursor, found⟩ = (last, none) ∧ last.tokens = found.reverse ++ tokens := by
  induction scanned generalizing found with
  | done empty => exact ⟨⟨_, found⟩, run_of_isDone (isDone_iff.mpr empty), by simp [Scan.tokens]⟩
  | @skip cursor length tokens filled ahead _ ih =>
    have more : isDone ⟨cursor, found⟩ = false := by simpa [isDone] using filled
    obtain ⟨last, ran, whole⟩ := ih found
    exact ⟨last, (run_of_step more (step_skip ahead)).trans ran, whole⟩
  | @number cursor raw rest tokens whole digit munch _ ih =>
    have more : isDone ⟨cursor, found⟩ = false := by
      obtain ⟨c, starts, -⟩ := digit
      obtain ⟨others, rfl⟩ := List.head?_eq_some_iff.mp starts
      simp [isDone, whole]
    obtain ⟨last, ran, found⟩ := ih (_ :: found)
    exact ⟨last, (run_of_step more (step_number whole digit munch)).trans ran, by simpa using found⟩

/-- The tokens of a text are those of a scan from its start that stops nowhere. -/
theorem ofText_eq_ok_iff {text : Text} {tokens : List Token} :
    ofText text = .ok tokens ↔ Scanned (Cursor.start text) tokens := by
  constructor
  · intro scanned
    unfold ofText at scanned
    split at scanned
    · rename_i last ran
      cases scanned
      obtain ⟨tokens, whole, scanned⟩ := scanned_of_run ran
      rwa [whole]
    · simp at scanned
  · intro scanned
    obtain ⟨last, ran, whole⟩ := run_of_scanned scanned []
    simp [ofText, start, ran, whole]

end Scan
end NumeralStyle
