import NumeralStyle.Editor.Diagnostic
import NumeralStyle.Proofs.Source.Place
import NumeralStyle.Proofs.Text.Column

/-! Places of a document as offsets in its text. A place tells a line, where lines end with line
feeds, and a number of characters in it. Reading the place of a scan back that way gives the offset
at which the scan stands (`offset_ofPosition`), so tokens at different places have different ranges
(`ranges_nodup`). -/
namespace NumeralStyle
open Text

namespace Text

/-- The number of characters before a line of a text: those of the lines before it, each with its
line feed. -/
def lineStart (line : Nat) (source : Text) : Nat :=
  (((stretches '\n' source).take line).flatMap (· ++ ['\n'])).length

theorem lineStart_zero (source : Text) : lineStart 0 source = 0 := rfl

theorem lineStart_feed (line : Nat) (rest : Text) :
    lineStart (line + 1) ('\n' :: rest) = lineStart line rest + 1 := by
  simp only [lineStart, stretches, if_true, List.take_succ_cons, List.flatMap_cons, List.nil_append,
    List.singleton_append, List.length_cons]

theorem lineStart_cons {c : Char} (other : c ≠ '\n') (line : Nat) (rest : Text) :
    lineStart (line + 1) (c :: rest) = lineStart (line + 1) rest + 1 := by
  simp only [lineStart, stretches, other, if_false]
  cases found : stretches '\n' rest with
  | nil => exact absurd found (stretches_ne_nil '\n' rest)
  | cons first others =>
    simp only [List.take_succ_cons, List.flatMap_cons, List.cons_append, List.length_cons]

/-- Each character of a text is behind a number of lines, and a number of characters of its own
line. -/
theorem lineStart_add_column (front rest : Text) :
    lineStart (front.count '\n') (front ++ rest) + column front = front.length := by
  induction front with
  | nil => rfl
  | cons c front ih =>
    by_cases feed : c = '\n'
    · subst feed
      rw [List.count_cons_self, List.cons_append, lineStart_feed, column_cons (.inl rfl),
        List.length_cons]
      omega
    · rw [List.count_cons_of_ne feed, List.cons_append, List.length_cons]
      cases lines : front.count '\n' with
      | zero =>
        have none : '\n' ∉ c :: front := by
          simp [Ne.symm feed, List.count_eq_zero.mp lines]
        rw [lineStart_zero, column_of_not_mem none, List.length_cons]
        omega
      | succ line =>
        have some : '\n' ∈ front := List.count_pos_iff.mp (by omega)
        rw [lines] at ih
        rw [lineStart_cons feed, column_cons (.inr some)]
        omega

end Text

namespace Editor

/-- The number of characters of a text before a place. -/
def Place.offset (source : Text) (place : Place) : Nat :=
  lineStart place.line.toNat source + place.character.toNat

theorem offset_ofPosition {source : Text} {cursor : Cursor} (within : cursor.Within source) :
    (Place.ofPosition cursor.position).offset source = cursor.offset := by
  have size := lineStart_add_column cursor.behind.reverse cursor.ahead
  rw [within.whole, List.count_reverse, List.length_reverse, column, List.reverse_reverse] at size
  have line : (Place.ofPosition cursor.position).line.toNat = cursor.behind.count '\n' := by
    simp only [Place.ofPosition, Cursor.position, within.line]
    omega
  have character : (Place.ofPosition cursor.position).character.toNat =
      (cursor.behind.takeWhile (· != '\n')).length := by
    simp only [Place.ofPosition, Cursor.position, within.column]
    omega
  rw [Place.offset, line, character, within.offset]
  exact size

variable {source : Text} {tokens : List Token} {token : Token}

/-- The range of a token tells the offsets of the token. -/
theorem offset_ofSpan (scanned : Scanned (Cursor.start source) tokens) (emitted : token ∈ tokens) :
    (Range.ofSpan token.span).start.offset source = token.span.start.offset.toNat ∧
      (Range.ofSpan token.span).stop.offset source = token.span.stop.offset.toNat := by
  obtain ⟨first, last, start, stop, -, place⟩ :=
    scanned.places (Cursor.within_start source) token emitted
  rw [place]
  exact ⟨offset_ofPosition start, offset_ofPosition stop⟩

/-- No two tokens have the same range. -/
theorem ranges_nodup (scanned : Scanned (Cursor.start source) tokens) :
    (tokens.map fun token => Range.ofSpan token.span).Nodup := by
  refine List.pairwise_map.mpr ?_
  apply scanned.starts_increase.imp_of_mem
  intro first second one other behind same
  have start := (offset_ofSpan scanned one).1
  rw [same, (offset_ofSpan scanned other).1] at start
  omega

end Editor
end NumeralStyle
