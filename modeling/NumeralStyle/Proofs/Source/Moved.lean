import NumeralStyle.Proofs.Source.Replaced

/-! The same text in another place. A scan sees of the text behind it only whether a point ends it, so
a text is scanned alike wherever it stands, and only the places differ. What a scan finds behind other
text is what it finds in the text alone, with every place moved (`Scan.run_moved`). -/
namespace NumeralStyle

/-- The token with its places moved. -/
def Token.move (move : Position → Position) (token : Token) : Token :=
  ⟨token.raw, ⟨move token.span.start, move token.span.stop⟩⟩

/-- The reason to stop with the place of its fault moved. -/
def Stop.move (move : Position → Position) : Stop → Stop
  | .fault error => .fault ⟨error.fault, move error.position⟩
  | .cutEscape => .cutEscape

/-- Two cursors before the same text that see the same of what is behind them. Each place from the
second on is that from the first on, moved. -/
structure Cursor.Moved (move : Position → Position) (cursor other : Cursor) : Prop where
  ahead : other.ahead = cursor.ahead
  near : cursor.Near other
  position : ∀ count, (other.advance count).position = move (cursor.advance count).position

namespace Cursor

variable {move : Position → Position} {cursor other : Cursor}

theorem advance_add (first second : Nat) (cursor : Cursor) :
    (cursor.advance first).advance second = cursor.advance (first + second) := by
  induction first generalizing cursor with
  | zero => rw [Nat.zero_add, advance]
  | succ first ih => rw [Nat.succ_add, advance, advance, ih]

theorem Near.next_of_same (near : Near cursor other) (same : other.ahead = cursor.ahead) :
    Near cursor.next other.next := by
  cases ahead : cursor.ahead with
  | nil =>
    rw [ahead] at same
    have stays : cursor.next = cursor ∧ other.next = other := by simp [Cursor.next, ahead, same]
    rwa [stays.1, stays.2]
  | cons c rest => exact near.next ahead (same.trans ahead)

theorem Near.advance_of_same (near : Near cursor other) (same : other.ahead = cursor.ahead)
    (count : Nat) : Near (cursor.advance count) (other.advance count) := by
  induction count generalizing cursor other with
  | zero => exact near
  | succ count ih => exact ih (near.next_of_same same) (by rw [ahead_next, ahead_next, same])

theorem Moved.advance (moved : Moved move cursor other) (count : Nat) :
    Moved move (cursor.advance count) (other.advance count) := by
  refine ⟨by rw [ahead_advance, ahead_advance, moved.ahead],
    moved.near.advance_of_same moved.ahead count, fun more => ?_⟩
  rw [advance_add, advance_add, moved.position]

end Cursor

namespace Scan

variable {move : Position → Position}

/-- What a step does to a scan: it goes on, finds one token or none, and stops or not. Where the text
stands in another place, it does the same there. -/
theorem step_moved {scan : Scan} {other : Cursor} (moved : scan.cursor.Moved move other) :
    ∃ count tokens stop, scan.step = (⟨scan.cursor.advance count, tokens ++ scan.found⟩, stop) ∧
      ∀ found, step ⟨other, found⟩ =
        (⟨other.advance count, tokens.map (Token.move move) ++ found⟩, stop.map (Stop.move move)) := by
  have start := moved.position 0
  have same : ∀ found, lexeme ⟨other, found⟩ = scan.lexeme := by
    intro found
    rw [lexeme, lexeme, moved.ahead, moved.near.lone]
  cases ahead : scan.lexeme with
  | skip length =>
    refine ⟨length, [], none, step_skip ahead, fun found => ?_⟩
    exact step_skip ((same found).trans ahead)
  | number length =>
    refine ⟨length, [⟨scan.cursor.ahead.take length,
      ⟨scan.cursor.position, (scan.cursor.advance length).position⟩⟩], none, ?_, fun found => ?_⟩
    · simp [step, ahead]
    · have past := moved.position length
      rw [Cursor.advance, Cursor.advance] at start
      simp [step, (same found).trans ahead, Token.move, moved.ahead, start, past]
  | broken fault place length =>
    refine ⟨length, [], some (.fault ⟨fault, (scan.cursor.advance place).position⟩), ?_,
      fun found => ?_⟩
    · simp [step, ahead]
    · simp [step, (same found).trans ahead, Stop.move, moved.position]
  | cutEscape length =>
    refine ⟨length, [], some .cutEscape, ?_, fun found => ?_⟩
    · simp [step, ahead]
    · simp [step, (same found).trans ahead, Stop.move]

/-- A run takes the same steps in another place. -/
theorem run_moved {scan : Scan} {other : Cursor} (moved : scan.cursor.Moved move other) :
    ∃ last tokens stop, scan.run = (⟨last, tokens ++ scan.found⟩, stop) ∧
      ∀ found, ∃ last, run ⟨other, found⟩ =
        (⟨last, tokens.map (Token.move move) ++ found⟩, stop.map (Stop.move move)) := by
  fun_induction run scan generalizing other with
  | case1 scan more next stepped ih =>
    obtain ⟨count, tokens, stop, goes, goesThere⟩ := step_moved moved
    rw [stepped] at goes
    obtain ⟨rfl, rfl⟩ := Prod.mk.inj goes
    obtain ⟨last, others, stop, ran, ranThere⟩ := ih (moved.advance count)
    refine ⟨last, others ++ tokens, stop, by rw [ran, List.append_assoc], fun found => ?_⟩
    have moreThere : isDone ⟨other, found⟩ = false := by
      rwa [isDone, moved.ahead]
    obtain ⟨last, ran⟩ := ranThere (tokens.map (Token.move move) ++ found)
    refine ⟨last, ?_⟩
    rw [run_of_step moreThere (goesThere found), ran, List.map_append, List.append_assoc]
  | case2 scan more next stop stepped =>
    obtain ⟨count, tokens, stop', goes, goesThere⟩ := step_moved moved
    rw [stepped] at goes
    obtain ⟨rfl, rfl⟩ := Prod.mk.inj goes
    refine ⟨_, tokens, some stop, rfl, fun found => ⟨other.advance count, ?_⟩⟩
    have moreThere : isDone ⟨other, found⟩ = false := by
      rwa [isDone, moved.ahead]
    exact run_of_stop moreThere (goesThere found)
  | case3 scan done =>
    refine ⟨scan.cursor, [], none, rfl, fun found => ⟨other, run_of_isDone ?_⟩⟩
    rw [isDone, moved.ahead]
    simpa [isDone] using done

end Scan
end NumeralStyle
