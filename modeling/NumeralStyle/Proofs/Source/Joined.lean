import NumeralStyle.Proofs.Source.Fits
import NumeralStyle.Proofs.Source.Reached

/-! Scanning what was joined. Between spaces a literal is one token, unless it has a name behind its
point or no digit behind its sign. So scanning undoes joining such literals with spaces: it finds
these literals again, each at its place (`Scan.ofText_intercalate`). -/
namespace NumeralStyle
open CharClass Literal Text

/-- A literal with nothing at its point or its sign that cuts it in two. -/
structure OnePiece (raw : Text) : Prop where
  literal : ∃ literal, parse raw = .ok literal
  /-- No letter and no underscore is behind a point. -/
  point : ∀ before c after, raw = before ++ '.' :: c :: after → isIdentStart c = false
  /-- A digit is behind each sign. -/
  sign : ∀ before sign after, raw = before ++ sign :: after → sign = '+' ∨ sign = '-' →
    Lexeme.StartsWithDigit after

/-- The tokens of spellings in one line with a space between one and the next, from an offset on. -/
def tokensOf (offset : Nat) : List Text → List Token
  | [] => []
  | raw :: others =>
    ⟨raw, ⟨⟨1, offset + 1, offset⟩, ⟨1, offset + raw.length + 1, offset + raw.length⟩⟩⟩ ::
      tokensOf (offset + raw.length + 1) others

namespace Literal

/-- A decimal number has one point at most. -/
theorem IsNumber.point_not_mem {raw before after : Text} (number : IsNumber .decimal raw)
    (same : raw = before ++ '.' :: after) : '.' ∉ after := by
  obtain ⟨⟨whole, fraction, exponent, tail⟩, valid, rfl⟩ := number
  have noneWhole : '.' ∉ whole := fun member =>
    ne_point_of_isTailChar (isTailChar_of_isDigitOrSeparator (valid.whole _ member)) rfl
  have noneTail : '.' ∉ tail := fun member => ne_point_of_isTailChar (valid.tail.chars _ member) rfl
  have noneExponent := valid.exponent.point_not_mem
  have pointed := valid.fraction
  dsimp only [Pieces.text] at same noneExponent pointed
  cases pointed with
  | none =>
    have none : '.' ∉ whole ++ [] ++ exponent ++ tail := by simp [noneWhole, noneExponent, noneTail]
    rw [same] at none
    exact absurd (by simp) none
  | @point run inside =>
    have noneRun : '.' ∉ run := fun member =>
      ne_point_of_isTailChar (isTailChar_of_isDigitOrSeparator (inside _ member)) rfl
    have noneBehind : '.' ∉ run ++ exponent ++ tail := by simp [noneRun, noneExponent, noneTail]
    have spelled : whole ++ '.' :: (run ++ exponent ++ tail) = before ++ '.' :: after := by
      rw [← same]
      simp
    obtain ⟨-, -, rfl⟩ := cut_at spelled noneWhole noneBehind
    exact noneBehind

/-- Behind the lead of a base a number has letters, digits and separators only. -/
theorem IsNumber.chars_prefixed {radix : Radix} {body : Text} (base : radix ≠ .decimal)
    (number : IsNumber radix body) : ∀ c ∈ body, isTailChar c = true := by
  obtain ⟨⟨whole, fraction, exponent, tail⟩, valid, rfl⟩ := number
  obtain ⟨rfl, rfl⟩ := valid.integral base
  intro c member
  simp only [Pieces.text, List.append_nil, List.mem_append] at member
  rcases member with inWhole | inTail
  · exact isTailChar_of_isDigitOrSeparator (valid.whole c inWhole)
  · exact valid.tail.chars c inTail

/-- A literal starts with a digit, that of its lead if it has one. -/
theorem startsWithDigit_of_isNumber {raw : Text}
    (number : IsNumber (Radix.split raw).1 (Radix.split raw).2) : Lexeme.StartsWithDigit raw := by
  have whole := Radix.lead_append_split raw
  cases base : (Radix.split raw).1 with
  | decimal =>
    rw [Radix.split_eq_decimal base] at number
    obtain ⟨first, rest, rfl, digit⟩ := number.first_decimal
    rw [decimal_isDigit] at digit
    exact ⟨first, rfl, by rw [isDigit_of_ascii (ascii_of_isDigit digit), digit]⟩
  | hex => exact ⟨'0', by rw [← whole, base]; rfl, by decide⟩
  | octal => exact ⟨'0', by rw [← whole, base]; rfl, by decide⟩
  | binary => exact ⟨'0', by rw [← whole, base]; rfl, by decide⟩

end Literal

namespace Lexeme

/-- Nothing at all, or a space first. -/
def Spaced (rest : Text) : Prop := ∀ c ∈ rest.head?, c = ' '

theorem Spaced.stops {rest : Text} (spaced : Spaced rest) : Stops isIdentChar rest := by
  intro c first
  rw [spaced c first]
  decide

theorem Spaced.not_signAhead {rest : Text} (spaced : Spaced rest) : ¬ SignAhead rest := by
  rintro ⟨sign, digit, others, rfl, signs, -⟩
  obtain rfl : sign = ' ' := spaced sign rfl
  exact absurd signs (by decide)

theorem Spaced.not_pointAhead {rest : Text} (spaced : Spaced rest) : ¬ PointAhead rest := by
  rintro ⟨others, rfl, -⟩
  exact absurd (spaced '.' rfl) (by decide)

/-- Before a space a literal in one piece reaches just up to it. -/
theorem munch_of_onePiece {raw rest : Text} (piece : OnePiece raw) (spaced : Spaced rest) :
    Munch false raw rest := by
  have number := exists_parse_iff.mp piece.literal
  by_cases base : (Radix.split raw).1 = .decimal
  · rw [Radix.split_eq_decimal base] at number
    refine munch_of_fits number base ⟨spaced.stops, ?_, piece.sign, fun own => ?_, fun marked => ?_⟩
    · intro before after same
      refine ⟨rfl, pointAhead_cons.mpr fun c first => ?_⟩
      cases after with
      | nil =>
        rw [spaced c first]
        decide
      | cons next others =>
        obtain rfl : next = c := by simpa using first
        have single := number.point_not_mem same
        refine ⟨?_, piece.point before next others same⟩
        rintro rfl
        exact single (by simp)
    · exact spaced.not_pointAhead own.2.2
    · exact spaced.not_signAhead marked.2
  · have chars := number.chars_prefixed base
    have ident : IsIdent raw := by
      intro c member
      rw [← Radix.lead_append_split raw] at member
      rcases List.mem_append.mp member with inLead | inBody
      · have leads : ∀ radix : Radix, ∀ d ∈ radix.lead, isIdentChar d = true := by
          intro radix
          cases radix <;> decide
        exact leads _ c inLead
      · rw [isIdentChar_of_ascii (ascii_of_isTailChar (chars c inBody))]
        exact chars c inBody
    exact .prefixed base ident spaced.stops

theorem read_space (afterPoint : Bool) (rest : Text) : read afterPoint (' ' :: rest) = .skip 1 := by
  rw [read_of_other (by decide) fun slash => absurd slash (by decide), if_neg (by decide),
    if_neg (by decide)]

end Lexeme

namespace Cursor

/-- A cursor in the first line of its text. -/
structure FirstLine (cursor : Cursor) : Prop where
  line : cursor.line = 1
  column : cursor.column = cursor.offset + 1

variable {cursor : Cursor}

theorem FirstLine.position_eq (first : cursor.FirstLine) :
    cursor.position = ⟨1, cursor.offset + 1, cursor.offset⟩ := by
  simp [position, first.line, first.column]

theorem FirstLine.advance {used rest : Text} (first : cursor.FirstLine)
    (whole : cursor.ahead = used ++ rest) (line : '\n' ∉ used) :
    (cursor.advance used.length).FirstLine := by
  induction used generalizing cursor with
  | nil => exact first
  | cons c used ih =>
    simp only [List.mem_cons, not_or] at line
    refine ih ⟨?_, ?_⟩ (advance_cons whole).1 line.2
    · simp [next, whole, Ne.symm line.1, first.line]
    · simp [next, whole, Ne.symm line.1, first.column]

theorem isAfterPoint_of_space {behind : Text} (space : cursor.behind = ' ' :: behind) :
    cursor.isAfterPoint = false := by
  simp [isAfterPoint, space]

end Cursor

namespace Scan
open Lexeme

/-- A number in the first line is the next token, and its place counts the characters before it. -/
theorem scanned_number {cursor : Cursor} {raw rest : Text} {tokens : List Token}
    (ahead : cursor.ahead = raw ++ rest) (digit : StartsWithDigit raw)
    (munch : Munch cursor.isAfterPoint raw rest) (first : cursor.FirstLine)
    (behind : (cursor.advance raw.length).FirstLine → Scanned (cursor.advance raw.length) tokens) :
    Scanned cursor (⟨raw, ⟨⟨1, cursor.offset + 1, cursor.offset⟩,
      ⟨1, cursor.offset + raw.length + 1, cursor.offset + raw.length⟩⟩⟩ :: tokens) := by
  have past := first.advance ahead munch.feed_not_mem
  have scanned := Scanned.number ahead digit munch (behind past)
  rwa [first.position_eq, past.position_eq, (Cursor.advance_append ahead).2.2, Int.natCast_add]
    at scanned

/-- A literal before a space is the next token. -/
theorem scanned_piece {cursor : Cursor} {raw rest : Text} {tokens : List Token}
    (piece : OnePiece raw) (spaced : Spaced rest) (ahead : cursor.ahead = raw ++ rest)
    (lone : cursor.isAfterPoint = false) (first : cursor.FirstLine)
    (behind : (cursor.advance raw.length).FirstLine → Scanned (cursor.advance raw.length) tokens) :
    Scanned cursor (⟨raw, ⟨⟨1, cursor.offset + 1, cursor.offset⟩,
      ⟨1, cursor.offset + raw.length + 1, cursor.offset + raw.length⟩⟩⟩ :: tokens) := by
  have digit := startsWithDigit_of_isNumber (exists_parse_iff.mp piece.literal)
  have munch := munch_of_onePiece piece spaced
  rw [← lone] at munch
  exact scanned_number ahead digit munch first behind

/-- From any place in its first line, a scan of joined literals finds each of them. -/
theorem scanned_intercalate {raws : List Text} (pieces : ∀ raw ∈ raws, OnePiece raw) {cursor : Cursor}
    (ahead : cursor.ahead = List.intercalate [' '] raws) (lone : cursor.isAfterPoint = false)
    (first : cursor.FirstLine) : Scanned cursor (tokensOf cursor.offset raws) := by
  induction raws generalizing cursor with
  | nil => exact .done ahead
  | cons raw others ih =>
    have piece := pieces raw (by simp)
    cases others with
    | nil =>
      have whole : cursor.ahead = raw ++ [] := by
        rw [ahead, List.intercalate_singleton, List.append_nil]
      exact scanned_piece piece (by simp [Spaced]) whole lone first fun _ =>
        .done (Cursor.advance_append whole).1
    | cons next others =>
      have whole : cursor.ahead = raw ++ ' ' :: List.intercalate [' '] (next :: others) := by
        rw [ahead, List.intercalate_cons_cons, List.append_assoc, List.singleton_append]
      refine scanned_piece piece (by simp [Spaced]) whole lone first fun past => ?_
      obtain ⟨beyond, -, offset⟩ := Cursor.advance_append whole
      have space : (cursor.advance raw.length).ahead =
          [' '] ++ List.intercalate [' '] (next :: others) := beyond
      obtain ⟨ahead', behind', offset'⟩ := Cursor.advance_append space
      have scanned := ih (fun other member => pieces other (List.mem_cons_of_mem _ member)) ahead'
        (Cursor.isAfterPoint_of_space behind') (past.advance space (by decide))
      have skipped : read (cursor.advance raw.length).isAfterPoint (cursor.advance raw.length).ahead =
          .skip 1 := by
        rw [beyond, read_space]
      refine .skip (by simp [beyond]) skipped ?_
      rwa [offset', offset] at scanned

theorem raw_tokensOf (offset : Nat) (raws : List Text) :
    (tokensOf offset raws).map (·.raw) = raws := by
  induction raws generalizing offset with
  | nil => rfl
  | cons raw others ih => rw [tokensOf, List.map_cons, ih]

/-- Scanning undoes joining: the numbers of literals joined with spaces are these literals, in order
and each at its place. -/
theorem ofText_intercalate {raws : List Text} (pieces : ∀ raw ∈ raws, OnePiece raw) :
    ofText (List.intercalate [' '] raws) = .ok (tokensOf 0 raws) ∧
      (tokensOf 0 raws).map (·.raw) = raws :=
  ⟨ofText_eq_ok_iff.mpr (scanned_intercalate pieces rfl rfl ⟨rfl, rfl⟩), raw_tokensOf 0 raws⟩

/-- A point, a sign and the lead of a base. -/
theorem ofText_intercalate_exponent :
    (∀ raw ∈ [['1', '.', '5', 'e', '+', '3'], ['0', 'x', 'F', 'u', '8']], OnePiece raw) ∧
      ofText ['1', '.', '5', 'e', '+', '3', ' ', '0', 'x', 'F', 'u', '8'] =
        .ok [⟨['1', '.', '5', 'e', '+', '3'], ⟨⟨1, 1, 0⟩, ⟨1, 7, 6⟩⟩⟩,
          ⟨['0', 'x', 'F', 'u', '8'], ⟨⟨1, 8, 7⟩, ⟨1, 13, 12⟩⟩⟩] := by
  have exponent : OnePiece ['1', '.', '5', 'e', '+', '3'] := by
    refine ⟨⟨_, rfl⟩, fun before c after same => ?_, fun before sign after same signs => ?_⟩
    · have cut : ['1'] ++ '.' :: ['5', 'e', '+', '3'] = before ++ '.' :: c :: after := same
      obtain ⟨-, -, behind⟩ := cut_at cut (by decide) (by decide)
      obtain ⟨rfl, -⟩ := List.cons.inj behind
      decide
    · rcases signs with rfl | rfl
      · have cut : ['1', '.', '5', 'e'] ++ '+' :: ['3'] = before ++ '+' :: after := same
        obtain ⟨-, -, rfl⟩ := cut_at cut (by decide) (by decide)
        exact ⟨'3', rfl, by decide⟩
      · have member : '-' ∈ ['1', '.', '5', 'e', '+', '3'] := by rw [same]; simp
        exact absurd member (by decide)
  have prefixed : OnePiece ['0', 'x', 'F', 'u', '8'] := by
    have none : ∀ d ∈ ['.', '+', '-'], d ∉ ['0', 'x', 'F', 'u', '8'] := by decide
    refine ⟨⟨_, rfl⟩, fun before c after same => ?_, fun before sign after same signs => ?_⟩
    · exact absurd (by rw [same]; simp) (none '.' (by decide))
    · exact absurd (by rw [same]; simp) (none sign (by rcases signs with rfl | rfl <;> decide))
  have pieces : ∀ raw ∈ [['1', '.', '5', 'e', '+', '3'], ['0', 'x', 'F', 'u', '8']], OnePiece raw := by
    simpa using ⟨exponent, prefixed⟩
  exact ⟨pieces, (ofText_intercalate pieces).1⟩

end Scan
end NumeralStyle
