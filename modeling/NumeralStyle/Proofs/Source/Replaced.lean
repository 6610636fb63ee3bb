import NumeralStyle.Proofs.Source.Fits
import NumeralStyle.Proofs.Source.Place
import NumeralStyle.Proofs.Source.Skipped
import NumeralStyle.Proofs.Text.Edits

/-! Scanning a text in which other spellings stand for some of its numbers. A spelling can replace a
number if it starts with a digit, too, ends with a point where the number does, and reaches just as
far up to the text behind it (`Replaces`). Two scans, of a text and of the same text with some of its
numbers replaced, then stay in step: whatever one of them skips, the other one skips, and where one
finds a number the other finds its replacement (`Scanned.inStep`, `Scan.ofText_splice`). -/
namespace NumeralStyle
open CharClass Text

/-! ## What is behind a scan -/

namespace Cursor

/-- Cursors that see the same of what is behind them. -/
structure Near (cursor other : Cursor) : Prop where
  point : cursor.behind.head? = some '.' ↔ other.behind.head? = some '.'
  lone : cursor.isAfterPoint = other.isAfterPoint

variable {cursor other : Cursor}

theorem isAfterPoint_iff {c : Char} {behind : Text} (whole : cursor.behind = c :: behind) :
    cursor.isAfterPoint = true ↔ c = '.' ∧ behind.head? ≠ some '.' := by
  unfold isAfterPoint
  rw [whole]
  split
  · rename_i rest same
    obtain ⟨rfl, rfl⟩ := List.cons.inj same
    simp
  · rename_i rest single same
    obtain ⟨rfl, rfl⟩ := List.cons.inj same
    refine ⟨fun _ => ⟨rfl, fun first => ?_⟩, fun _ => rfl⟩
    obtain ⟨others, rfl⟩ := List.head?_eq_some_iff.mp first
    exact single others rfl
  · rename_i _ other
    refine ⟨fun found => absurd found (by decide), fun found => ?_⟩
    obtain ⟨rfl, -⟩ := found
    exact absurd rfl (other behind)

theorem Near.next {c : Char} {rest others : Text} (near : Near cursor other)
    (ahead : cursor.ahead = c :: rest) (ahead' : other.ahead = c :: others) :
    Near cursor.next other.next := by
  have behind : cursor.next.behind = c :: cursor.behind := by simp [Cursor.next, ahead]
  have behind' : other.next.behind = c :: other.behind := by simp [Cursor.next, ahead']
  refine ⟨by rw [behind, behind']; rfl, ?_⟩
  rw [Bool.eq_iff_iff, isAfterPoint_iff behind, isAfterPoint_iff behind']
  exact and_congr_right fun _ => not_congr near.point

theorem Near.advance {used rest others : Text} (near : Near cursor other)
    (ahead : cursor.ahead = used ++ rest) (ahead' : other.ahead = used ++ others) :
    Near (cursor.advance used.length) (other.advance used.length) := by
  induction used generalizing cursor other with
  | nil => exact near
  | cons c used ih =>
    exact ih (near.next ahead ahead') (advance_cons ahead).1 (advance_cons ahead').1

end Cursor

namespace Lexeme

/-- A number has at most one point, and does not start with it. -/
theorem Munch.before_point {afterPoint : Bool} {before number rest : Text}
    (munch : Munch afterPoint number rest) (digit : StartsWithDigit number)
    (same : number = before ++ ['.']) : before ≠ [] ∧ before.getLast? ≠ some '.' := by
  have filled : before ≠ [] := by
    rintro rfl
    obtain ⟨c, first, isDigit⟩ := digit
    rw [same] at first
    cases first
    exact absurd isDigit (by decide)
  refine ⟨filled, fun last => ?_⟩
  have within : '.' ∈ before := List.mem_of_getLast? last
  cases munch with
  | prefixed _ ident => exact ident.point_not_mem (by simp [same])
  | plain _ ident => exact ident.point_not_mem (by simp [same])
  | @signed run digits _ sign _ ident _ signs _ inside =>
    have noPoint : '.' ∉ run ++ sign :: digits := by
      simp [ident.point_not_mem, inside.point_not_mem, (point_ne_sign signs).symm]
    exact noPoint (by simp [same])
  | pointed _ plain _ _ ident =>
    obtain ⟨rfl, -, -⟩ := cut_at same plain.isIdent.point_not_mem ident.point_not_mem
    exact plain.isIdent.point_not_mem within
  | @pointedSigned run fraction digits _ sign _ plain _ _ ident _ signs _ inside =>
    have noPoint : '.' ∉ fraction ++ sign :: digits := by
      simp [ident.point_not_mem, inside.point_not_mem, (point_ne_sign signs).symm]
    rw [List.append_assoc, List.cons_append] at same
    obtain ⟨rfl, -, -⟩ := cut_at same plain.isIdent.point_not_mem noPoint
    exact plain.isIdent.point_not_mem within

end Lexeme

/-- A spelling that can stand in the place of a number. -/
structure Replaces (raw spelling : Text) : Prop where
  first : ∃ c ∈ raw.head?, c.isDigit = true
  starts : ∃ c ∈ spelling.head?, c.isDigit = true
  /-- What comes next sees a point behind it, or sees none. -/
  last : raw.getLast? = some '.' ↔ spelling.getLast? = some '.'
  munch {afterPoint : Bool} {rest : Text} :
    Lexeme.Munch afterPoint raw rest → Lexeme.Munch afterPoint spelling rest

theorem Replaces.alike {raw spelling : Text} (replaces : Replaces raw spelling) (rest others : Text) :
    Alike (raw ++ rest) (spelling ++ others) := by
  obtain ⟨c, first, digit⟩ := replaces.first
  obtain ⟨d, starts, digit'⟩ := replaces.starts
  obtain ⟨_, rfl⟩ := List.head?_eq_some_iff.mp first
  obtain ⟨_, rfl⟩ := List.head?_eq_some_iff.mp starts
  exact .digits digit digit'

theorem Lexeme.startsWithDigit_of_decimal {number : Text}
    (starts : ∃ c ∈ number.head?, c.isDigit = true) : StartsWithDigit number := by
  obtain ⟨c, first, digit⟩ := starts
  exact ⟨c, first, isDigit_of_decimal digit⟩

namespace Cursor

variable {cursor other : Cursor}

/-- Behind a number there is a lone point exactly if the number ends with one. -/
theorem behind_number {afterPoint : Bool} {number rest behind : Text}
    (whole : cursor.ahead = number ++ rest) (digit : Lexeme.StartsWithDigit number)
    (munch : Lexeme.Munch afterPoint number behind) :
    ((cursor.advance number.length).behind.head? = some '.' ↔ number.getLast? = some '.') ∧
      ((cursor.advance number.length).isAfterPoint = true ↔ number.getLast? = some '.') := by
  have passed := (advance_append whole).2.1
  rcases List.eq_nil_or_concat' number with rfl | ⟨before, last, rfl⟩
  · obtain ⟨c, first, -⟩ := digit
    cases first
  rw [List.reverse_append, List.reverse_singleton, List.cons_append, List.nil_append,
    List.cons_append] at passed
  rw [isAfterPoint_iff passed, passed, List.getLast?_concat, List.head?_cons, Option.some.injEq]
  refine ⟨Iff.rfl, And.left, fun point => ⟨point, fun double => ?_⟩⟩
  subst point
  obtain ⟨filled, single⟩ := munch.before_point digit rfl
  rw [List.head?_append, List.head?_reverse] at double
  cases ending : before.getLast? with
  | none => exact filled (List.getLast?_eq_none_iff.mp ending)
  | some c =>
    rw [ending, Option.some_or] at double
    exact single (ending.trans double)

/-- What comes behind a number sees the same where another number stands for it. -/
theorem near_replaced {raw spelling rest others : Text} (replaces : Replaces raw spelling)
    (munch : Lexeme.Munch cursor.isAfterPoint raw rest) (ahead : cursor.ahead = raw ++ rest)
    (ahead' : other.ahead = spelling ++ others) :
    Near (cursor.advance raw.length) (other.advance spelling.length) := by
  have starts := Lexeme.startsWithDigit_of_decimal replaces.first
  have starts' := Lexeme.startsWithDigit_of_decimal replaces.starts
  have before := behind_number ahead starts munch
  have after := behind_number ahead' starts' (replaces.munch munch)
  constructor
  · rw [before.1, after.1]
    exact replaces.last
  · rw [Bool.eq_iff_iff, before.2, after.2]
    exact replaces.last

end Cursor

/-! ## Two scans in step -/

/-- The edit that puts a spelling in the place of a token. -/
def Token.edit (token : Token) (spelling : Text) : Edit :=
  ⟨token.span.start.offset.toNat, token.span.stop.offset.toNat, spelling⟩

/-- The edits for the tokens that have a spelling chosen, in order. -/
def editsOf (choice : Token → Option Text) (tokens : List Token) : List Edit :=
  tokens.filterMap fun token => (choice token).map token.edit

/-- The spelling of a token, or the one that is chosen for it. -/
def respelled (choice : Token → Option Text) (token : Token) : Text :=
  (choice token).getD token.raw

variable {choice : Token → Option Text} {cursor : Cursor} {tokens : List Token}

theorem editsOf_cons_none {token : Token} (kept : choice token = none) :
    editsOf choice (token :: tokens) = editsOf choice tokens :=
  List.filterMap_cons_none (by rw [kept, Option.map_none])

theorem editsOf_cons_some {token : Token} {spelling : Text} (chosen : choice token = some spelling) :
    editsOf choice (token :: tokens) = token.edit spelling :: editsOf choice tokens :=
  List.filterMap_cons_some (by rw [chosen, Option.map_some])

theorem Scanned.edits_ahead (scanned : Scanned cursor tokens) :
    ∀ edit ∈ editsOf choice tokens, cursor.offset ≤ edit.start ∧ edit.start ≤ edit.stop := by
  intro edit member
  obtain ⟨token, emitted, chosen⟩ := List.mem_filterMap.mp member
  obtain ⟨spelling, -, rfl⟩ := Option.map_eq_some_iff.mp chosen
  obtain ⟨ahead, size, -⟩ := scanned.offsets token emitted
  simp only [Token.edit]
  omega

/-- The text ahead once the chosen spellings stand in the places of the tokens. -/
def Cursor.replaced (choice : Token → Option Text) (cursor : Cursor) (tokens : List Token) : Text :=
  splice cursor.offset (editsOf choice tokens) cursor.ahead

/-- The edited text ahead is like the text ahead, and a scan that sees the same behind it finds the
tokens, respelled. -/
structure InStep (choice : Token → Option Text) (cursor : Cursor) (tokens : List Token) : Prop where
  alike : Alike cursor.ahead (cursor.replaced choice tokens)
  follow {other : Cursor} : cursor.Near other → other.ahead = cursor.replaced choice tokens →
    ∃ found, Scanned other found ∧ found.map (·.raw) = tokens.map (respelled choice)

namespace InStep

/-- What stands ahead of all edits stays ahead of the edited text. -/
theorem replaced_append {used rest : Text} {behind : List Token} (whole : cursor.ahead = used ++ rest)
    (scanned : Scanned (cursor.advance used.length) tokens)
    (edits : editsOf choice behind = editsOf choice tokens) :
    cursor.replaced choice behind =
      used ++ (cursor.advance used.length).replaced choice tokens := by
  obtain ⟨ahead, -, offset⟩ := Cursor.advance_append whole
  have later : ∀ edit ∈ editsOf choice tokens,
      cursor.offset + used.length ≤ edit.start ∧ edit.start ≤ edit.stop := by
    rw [← offset]
    exact scanned.edits_ahead
  rw [Cursor.replaced, Cursor.replaced, edits, whole, ahead, offset]
  exact splice_append later

theorem skip {length : Nat} (filled : cursor.ahead ≠ [])
    (read : Lexeme.read cursor.isAfterPoint cursor.ahead = .skip length)
    (scanned : Scanned (cursor.advance length) tokens)
    (step : InStep choice (cursor.advance length) tokens) : InStep choice cursor tokens := by
  obtain ⟨used, rest, whole, size, again⟩ := Lexeme.read_skips filled read
  obtain rfl : length = used.length := size.trans (Nat.zero_add _)
  have kept := replaced_append whole scanned (Eq.refl (editsOf choice tokens))
  have beyond := step.alike
  rw [(Cursor.advance_append whole).1] at beyond
  have alike := beyond.append used
  rw [← kept, ← whole] at alike
  refine ⟨alike, fun {other} near ahead => ?_⟩
  have ahead' := ahead.trans kept
  obtain ⟨found, scan, raws⟩ := step.follow (near.advance whole ahead')
    (Cursor.advance_append ahead').1
  refine ⟨found, .skip ?_ ?_ scan, raws⟩
  · intro none
    rw [← ahead, none] at alike
    exact filled alike.symm.eq_nil
  · rw [← near.lone, ahead']
    exact again _ beyond

/-- A number that keeps its spelling is found again. -/
theorem keep {raw rest : Text} {token : Token} (whole : cursor.ahead = raw ++ rest)
    (digit : Lexeme.StartsWithDigit raw) (munch : Lexeme.Munch cursor.isAfterPoint raw rest)
    (scanned : Scanned (cursor.advance raw.length) tokens) (spelled : token.raw = raw)
    (kept : choice token = none) (step : InStep choice (cursor.advance raw.length) tokens) :
    InStep choice cursor (token :: tokens) := by
  have edited := replaced_append whole scanned (editsOf_cons_none kept)
  have beyond := step.alike
  rw [(Cursor.advance_append whole).1] at beyond
  have alike := beyond.append raw
  rw [← edited, ← whole] at alike
  refine ⟨alike, fun {other} near ahead => ?_⟩
  have ahead' := ahead.trans edited
  obtain ⟨found, scan, raws⟩ := step.follow (near.advance whole ahead')
    (Cursor.advance_append ahead').1
  rw [near.lone] at munch
  refine ⟨_, .number ahead' digit (munch.alike beyond) scan, ?_⟩
  rw [List.map_cons, List.map_cons, raws, respelled, kept, Option.getD_none, spelled]

/-- In the place of a number its replacement is found. -/
theorem replace {raw rest spelling : Text} {token : Token} (whole : cursor.ahead = raw ++ rest)
    (munch : Lexeme.Munch cursor.isAfterPoint raw rest)
    (place : token.edit spelling = ⟨cursor.offset, cursor.offset + raw.length, spelling⟩)
    (chosen : choice token = some spelling) (replaces : Replaces raw spelling)
    (step : InStep choice (cursor.advance raw.length) tokens) :
    InStep choice cursor (token :: tokens) := by
  obtain ⟨ahead, -, offset⟩ := Cursor.advance_append whole
  have edited : cursor.replaced choice (token :: tokens) =
      spelling ++ (cursor.advance raw.length).replaced choice tokens := by
    rw [Cursor.replaced, Cursor.replaced, editsOf_cons_some chosen, place, whole, ahead, offset]
    exact splice_cons rfl
  have beyond := step.alike
  rw [ahead] at beyond
  have alike := replaces.alike rest ((cursor.advance raw.length).replaced choice tokens)
  rw [← edited, ← whole] at alike
  refine ⟨alike, fun {other} near ahead => ?_⟩
  have ahead' := ahead.trans edited
  obtain ⟨found, scan, raws⟩ := step.follow (Cursor.near_replaced replaces munch whole ahead')
    (Cursor.advance_append ahead').1
  have digit := Lexeme.startsWithDigit_of_decimal replaces.starts
  have munch' := replaces.munch munch
  rw [near.lone] at munch'
  refine ⟨_, .number ahead' digit (munch'.alike beyond) scan, ?_⟩
  rw [List.map_cons, List.map_cons, raws, respelled, chosen, Option.getD_some]

end InStep

/-- Two scans stay in step, of a text and of the text in which spellings stand for some of its
numbers, if each of the spellings can replace its number. -/
theorem Scanned.inStep (scanned : Scanned cursor tokens)
    (valid : ∀ token ∈ tokens, ∀ spelling ∈ choice token, Replaces token.raw spelling) :
    InStep choice cursor tokens := by
  induction scanned with
  | @done cursor empty =>
    refine ⟨.same _, fun {other} _ ahead => ⟨[], .done ?_, rfl⟩⟩
    rw [ahead, Cursor.replaced, empty]
    rfl
  | skip filled read scanned ih => exact .skip filled read scanned (ih valid)
  | @number cursor raw rest tokens whole digit munch scanned ih =>
    have step := ih fun token member => valid token (by simp [member])
    cases chosen : choice ⟨raw, ⟨cursor.position, (cursor.advance raw.length).position⟩⟩ with
    | none => exact .keep whole digit munch scanned rfl chosen step
    | some spelling =>
      refine .replace whole munch ?_ chosen (valid _ (by simp) spelling chosen) step
      simp only [Token.edit, Cursor.position, (Cursor.advance_append whole).2.2, Int.toNat_natCast]

/-- Replacing numbers of a text changes their spellings, and no other number. -/
theorem Scan.ofText_splice {source : Text} (scanned : ofText source = .ok tokens)
    (valid : ∀ token ∈ tokens, ∀ spelling ∈ choice token, Replaces token.raw spelling) :
    ∃ found, ofText (splice 0 (editsOf choice tokens) source) = .ok found ∧
      found.map (·.raw) = tokens.map (respelled choice) := by
  have step := (ofText_eq_ok_iff.mp scanned).inStep valid
  have near : (Cursor.start source).Near (Cursor.start (splice 0 (editsOf choice tokens) source)) :=
    ⟨Iff.rfl, rfl⟩
  obtain ⟨found, scan, raws⟩ := step.follow near rfl
  exact ⟨found, ofText_eq_ok_iff.mpr scan, raws⟩

end NumeralStyle
