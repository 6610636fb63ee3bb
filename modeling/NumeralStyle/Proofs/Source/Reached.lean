import NumeralStyle.Proofs.Source.Place
import NumeralStyle.Proofs.Text.Column

/-! The states that a scan comes through. A scan takes one step after the other, and where a step
stops it can be taken up again. Whatever it has come to, its place counts the text that it has gone
through, its tokens are stretches of that text with something between them, and the next fault will
lie at or behind their end (`Reached.sound`). -/
namespace NumeralStyle
open CharClass Text

/-- A place in a text: its line counts the line feeds before it, and its column the characters behind
the last of these. -/
structure Position.In (source : Text) (position : Position) : Prop where
  offset : 0 ≤ position.offset ∧ position.offset ≤ source.length
  line : position.line = 1 + (source.take position.offset.toNat).count '\n'
  column : position.column = 1 + Text.column (source.take position.offset.toNat)

/-- A token of a text: a stretch of one line of it between two places, with a digit at its start. -/
structure Token.In (source : Text) (token : Token) : Prop where
  start : token.span.start.In source
  stop : token.span.stop.In source
  raw : token.raw =
    (source.take token.span.stop.offset.toNat).drop token.span.start.offset.toNat
  digit : Lexeme.StartsWithDigit token.raw
  line : '\n' ∉ token.raw

/-! ## What one lexeme looks like -/

namespace Lexeme

theorem feed_not_ident : isIdentChar '\n' = false := by decide

theorem feed_ne_sign {sign : Char} (signs : sign = '+' ∨ sign = '-') : '\n' ≠ sign := by
  rcases signs with rfl | rfl <;> decide

theorem IsIdent.not_mem {text : Text} {c : Char} (ident : IsIdent text)
    (outside : isIdentChar c = false) : c ∉ text := by
  intro member
  have inside := ident _ member
  rw [outside] at inside
  cases inside

/-- A number has nothing but identifier characters, points and signs in it. -/
theorem Munch.not_mem {afterPoint : Bool} {number rest : Text} {c : Char}
    (munch : Munch afterPoint number rest) (outside : isIdentChar c = false)
    (unmarked : c ∉ ['.', '+', '-']) : c ∉ number := by
  have ne_sign {sign : Char} (signs : sign = '+' ∨ sign = '-') : c ≠ sign := by
    rintro rfl
    rcases signs with rfl | rfl <;> simp at unmarked
  have ne_point : c ≠ '.' := by
    rintro rfl
    simp at unmarked
  cases munch with
  | prefixed _ ident => exact ident.not_mem outside
  | plain _ ident => exact ident.not_mem outside
  | signed _ ident _ signs _ inside =>
    simp [ident.not_mem outside, inside.not_mem outside, ne_sign signs]
  | pointed _ plain _ _ ident =>
    simp [plain.isIdent.not_mem outside, ident.not_mem outside, ne_point]
  | pointedSigned _ plain _ _ ident _ signs _ inside =>
    simp [plain.isIdent.not_mem outside, ident.not_mem outside, inside.not_mem outside, ne_point,
      ne_sign signs]

/-- A number lies in one line. -/
theorem Munch.feed_not_mem {afterPoint : Bool} {number rest : Text}
    (munch : Munch afterPoint number rest) : '\n' ∉ number :=
  munch.not_mem feed_not_ident (by decide)

section
variable {fault fault' : ScanFault} {start start' count length : Nat} {text : Text}

theorem start_of_orBroken {stop : Nat} {found : Option Nat}
    (broken : orBroken fault start stop found = .broken fault' start' length) : start' = start := by
  cases found with
  | none =>
    cases broken
    rfl
  | some => cases broken

theorem start_of_escapedCharacter
    (broken : escapedCharacter start count text = .broken fault start' length) : start' = start := by
  fun_induction escapedCharacter start count text with
  | case1 =>
    cases broken
    rfl
  | case2 =>
    cases broken
    rfl
  | case3 => cases broken
  | case4 => cases broken
  | case5 _ _ _ ih => exact ih broken
  | case6 _ _ _ _ _ _ _ ih => exact ih broken

theorem start_of_character (broken : character start text = .broken fault start' length) :
    start' = start := by
  unfold character at broken
  split at broken
  · exact start_of_escapedCharacter broken
  · cases broken
  · cases broken

/-- Behind its first character nothing but a quoted text starts, and only right behind it. -/
theorem start_lt_of_lettered (broken : lettered text = .broken fault start length) :
    start < text.length := by
  have raw {lead hashes : Nat} {c : Char} {rest body : Text}
      (unclosed : rawString lead hashes body = .broken fault start length) :
      start < (c :: rest).length := by
    obtain rfl := start_of_orBroken unclosed
    exact Nat.succ_pos _
  unfold lettered at broken
  split at broken
  · obtain rfl := start_of_orBroken broken
    simp
  · obtain rfl := start_of_orBroken broken
    simp
  · obtain rfl := start_of_character broken
    simp
  · split at broken
    · exact raw broken
    · cases broken
  · split at broken
    · exact raw broken
    · cases broken
  · split at broken
    · exact raw broken
    · cases broken
  · cases broken

/-- What is broken starts within the text. -/
theorem start_lt_of_read {afterPoint : Bool}
    (broken : read afterPoint text = .broken fault start length) : start < text.length := by
  unfold read at broken
  split at broken
  · cases broken
  · cases broken
    exact Nat.succ_pos _
  · cases broken
  · obtain rfl := start_of_orBroken broken
    exact Nat.succ_pos _
  · obtain rfl := start_of_orBroken broken
    exact Nat.succ_pos _
  · obtain rfl := start_of_character broken
    exact Nat.succ_pos _
  · split at broken
    · cases broken
    · split at broken
      · exact start_lt_of_lettered broken
      · cases broken

end
end Lexeme

/-! ## Cursors and places -/

namespace Cursor

variable {cursor : Cursor} {source : Text}

theorem offset_lt_advance {count : Nat} (more : cursor.ahead ≠ []) (positive : 0 < count) :
    cursor.offset < (cursor.advance count).offset := by
  obtain ⟨c, rest, ahead⟩ := List.exists_cons_of_ne_nil more
  obtain ⟨count, rfl⟩ := Nat.exists_eq_add_one_of_ne_zero (Nat.ne_of_gt positive)
  have forward : cursor.next.offset = cursor.offset + 1 := by simp [next, ahead]
  have beyond := offset_le_advance count cursor.next
  rw [advance]
  omega

theorem Within.take (within : cursor.Within source) :
    source.take cursor.offset = cursor.behind.reverse := by
  rw [← within.whole, within.offset, ← List.length_reverse, List.take_left]

theorem Within.length_eq (within : cursor.Within source) :
    source.length = cursor.offset + cursor.ahead.length := by
  rw [← within.whole, within.offset, List.length_append, List.length_reverse]

theorem Within.position_in (within : cursor.Within source) : cursor.position.In source := by
  have size := within.length_eq
  refine ⟨by simp only [position]; omega, ?_, ?_⟩
  · simp only [position, Int.toNat_natCast, within.take, List.count_reverse, within.line]
    omega
  · simp only [position, Int.toNat_natCast, within.take, Text.column, List.reverse_reverse,
      within.column]
    omega

end Cursor

/-- What a scan takes along for a number is a token of the text. -/
theorem Token.in_of_munch {source raw rest : Text} {cursor : Cursor} (within : cursor.Within source)
    (whole : cursor.ahead = raw ++ rest) (digit : Lexeme.StartsWithDigit raw)
    (munch : Lexeme.Munch cursor.isAfterPoint raw rest) :
    Token.In source ⟨raw, ⟨cursor.position, (cursor.advance raw.length).position⟩⟩ := by
  have past := within.advance raw.length
  obtain ⟨-, behind, -⟩ := Cursor.advance_append whole
  refine ⟨within.position_in, past.position_in, ?_, digit, munch.feed_not_mem⟩
  simp only [Cursor.position, Int.toNat_natCast]
  rw [past.take, behind, List.reverse_append, List.reverse_reverse, within.offset,
    ← List.length_reverse, List.drop_left]

namespace Scan

/-- The states that a scan of a text can come to, whether or not its steps stop. -/
inductive Reached (source : Text) : Scan → Prop
  | start : Reached source (start source)
  | step {scan : Scan} : Reached source scan → scan.isDone = false → Reached source scan.step.1

/-- What is said of every state of a scan. -/
structure Sound (source : Text) (scan : Scan) : Prop where
  cursor : scan.cursor.position.In source
  ahead : scan.cursor.ahead = source.drop scan.cursor.offset
  token : ∀ token ∈ scan.tokens, token.In source
  /-- Between one token and the next there is at least one character. -/
  apart : scan.tokens.Pairwise fun first second => first.span.stop.offset < second.span.start.offset
  passed : ∀ token ∈ scan.tokens, token.span.stop.offset ≤ scan.cursor.offset
  /-- The fault at which the next step stops is within the text, and behind all tokens. -/
  fault : scan.isDone = false → ∀ error next, scan.step = (next, some (.fault error)) →
    error.position.In source ∧ error.position.offset < source.length ∧
      ∀ token ∈ next.tokens, token.span.stop.offset ≤ error.position.offset

/-- What each step of a scan preserves. The tokens stand in the reverse order here. -/
structure Underway (source : Text) (scan : Scan) : Prop where
  within : scan.cursor.Within source
  token : ∀ token ∈ scan.found, token.In source
  apart : scan.found.Pairwise fun second first => first.span.stop.offset < second.span.start.offset
  passed : ∀ token ∈ scan.found, token.span.stop.offset ≤ scan.cursor.offset
  /-- The scan stands right behind a token only where no number can start. -/
  clear : Stops isIdentChar scan.cursor.ahead ∨
    ∀ token ∈ scan.found, token.span.stop.offset < scan.cursor.offset

namespace Underway

variable {source : Text} {scan : Scan}

theorem start (source : Text) : Underway source (start source) where
  within := Cursor.within_start source
  token _ member := by cases member
  apart := .nil
  passed _ member := by cases member
  clear := .inr fun _ member => by cases member

/-- Going on without a token keeps the scan sound, wherever it comes to stand. -/
theorem advance (underway : Underway source scan) (more : scan.isDone = false) (count : Nat) :
    Underway source ⟨scan.cursor.advance count, scan.found⟩ := by
  obtain ⟨within, token, apart, passed, clear⟩ := underway
  have forward := Cursor.offset_le_advance count scan.cursor
  refine ⟨within.advance count, token, apart, fun found member => ?_, ?_⟩
  · have before := passed found member
    dsimp only
    omega
  · rcases Nat.eq_zero_or_pos count with rfl | positive
    · exact clear
    · have filled : scan.cursor.ahead ≠ [] := fun none => by simp [isDone, none] at more
      have beyond := Cursor.offset_lt_advance filled positive
      refine .inr fun found member => ?_
      have before := passed found member
      dsimp only
      omega

/-- A number is taken along with something between it and the token before it. -/
theorem number {raw rest : Text} (underway : Underway source scan)
    (whole : scan.cursor.ahead = raw ++ rest) (digit : Lexeme.StartsWithDigit raw)
    (munch : Lexeme.Munch scan.cursor.isAfterPoint raw rest) :
    Underway source ⟨scan.cursor.advance raw.length,
      ⟨raw, ⟨scan.cursor.position, (scan.cursor.advance raw.length).position⟩⟩ :: scan.found⟩ := by
  obtain ⟨within, token, apart, passed, clear⟩ := underway
  obtain ⟨ahead, -, offset⟩ := Cursor.advance_append whole
  have before : ∀ found ∈ scan.found, found.span.stop.offset < scan.cursor.offset := by
    refine clear.resolve_left fun stops => ?_
    obtain ⟨c, starts, isDigit⟩ := digit
    obtain ⟨others, rfl⟩ := List.head?_eq_some_iff.mp starts
    have outside := stops c (by rw [whole]; rfl)
    rw [isIdentChar_of_isDigit isDigit] at outside
    cases outside
  refine ⟨within.advance _, ?_, .cons before apart, ?_, .inl ?_⟩
  · intro found member
    rcases List.mem_cons.mp member with rfl | behind
    · exact Token.in_of_munch within whole digit munch
    · exact token found behind
  · intro found member
    rcases List.mem_cons.mp member with rfl | behind
    · exact Int.le_refl _
    · have earlier := passed found behind
      dsimp only
      omega
  · dsimp only
    rw [ahead]
    exact munch.stops

theorem step (underway : Underway source scan) (more : scan.isDone = false) :
    Underway source scan.step.1 := by
  cases found : scan.lexeme with
  | skip length =>
    rw [step_skip found]
    exact underway.advance more length
  | number length =>
    obtain ⟨raw, rest, whole, rfl, digit, munch⟩ := Lexeme.exists_munch_of_read found
    rw [step_number whole digit munch]
    exact underway.number whole digit munch
  | broken fault start length =>
    simp only [Scan.step, found]
    exact underway.advance more length
  | cutEscape length =>
    simp only [Scan.step, found]
    exact underway.advance more length

theorem fault_in (underway : Underway source scan) {error : ScanError} {next : Scan}
    (stopped : scan.step = (next, some (.fault error))) :
    error.position.In source ∧ error.position.offset < source.length ∧
      ∀ token ∈ next.tokens, token.span.stop.offset ≤ error.position.offset := by
  cases found : scan.lexeme with
  | skip length => simp [Scan.step, found] at stopped
  | number length => simp [Scan.step, found] at stopped
  | cutEscape length => simp [Scan.step, found] at stopped
  | broken fault start length =>
    simp only [Scan.step, found, Prod.mk.injEq, Option.some.injEq, Stop.fault.injEq] at stopped
    obtain ⟨rfl, rfl⟩ := stopped
    have place := underway.within.advance start
    have inside : start < scan.cursor.ahead.length := Lexeme.start_lt_of_read found
    have ahead := Cursor.ahead_advance start scan.cursor
    have size := place.length_eq
    have forward := Cursor.offset_le_advance start scan.cursor
    rw [ahead, List.length_drop] at size
    refine ⟨place.position_in, ?_, fun token member => ?_⟩
    · simp only [Cursor.position]
      omega
    · have before := underway.passed token (by simpa [tokens] using member)
      simp only [Cursor.position]
      omega

end Underway

theorem Reached.underway {source : Text} {scan : Scan} (reached : Reached source scan) :
    Underway source scan := by
  induction reached with
  | start => exact .start source
  | step _ more ih => exact ih.step more

/-- In every state that a scan can come to, also where a step has stopped, its place is right, its
tokens are stretches of the text that it has gone through, one behind the other with something
between them, and the next fault lies within the text and not before their end. -/
theorem Reached.sound {source : Text} {scan : Scan} (reached : Reached source scan) :
    Sound source scan := by
  have underway := reached.underway
  refine ⟨underway.within.position_in, ?_, ?_, ?_, ?_, fun _ _ _ => underway.fault_in⟩
  · rw [← underway.within.whole, underway.within.offset, ← List.length_reverse, List.drop_left]
  · exact fun token member => underway.token token (by simpa [tokens] using member)
  · exact List.pairwise_reverse.mpr underway.apart
  · exact fun token member => underway.passed token (by simpa [tokens] using member)

/-- A scan past a number, at a string that does not end. -/
theorem Reached.sound_open_string :
    ∃ scan : Scan, Reached ['1', '\n', '"'] scan ∧ scan.tokens.length = 1 ∧
      Sound ['1', '\n', '"'] scan := by
  have first : Reached ['1', '\n', '"'] (Scan.start ['1', '\n', '"']).step.1 := .step .start rfl
  have second := Reached.step first rfl
  exact ⟨_, second, rfl, second.sound⟩

end Scan
end NumeralStyle
