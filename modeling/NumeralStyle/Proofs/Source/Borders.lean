import NumeralStyle.Proofs.Source.Chained
import NumeralStyle.Proofs.Source.Enclosed
import NumeralStyle.Proofs.Source.Reached

/-! Borders of tokens. No identifier character stands right behind a token. Before a token one can
stand, if it starts neither an identifier nor a number (`Scan.ofText_stray`): then nothing skips it
together with the digits behind it, and so the whole run of identifier characters before the token is
of this kind (`Scan.ofText_borders`). Everything else that is skipped either takes a run of identifier
characters along to its end, or ends with a character that is none (`Lexeme.read_parted`). -/
namespace NumeralStyle
open CharClass Text

/-- A numeral that is no digit, such as a fraction: it continues identifiers and numbers, and starts
neither. -/
structure IsStray (c : Char) : Prop where
  ident : isIdentChar c = true
  start : isIdentStart c = false
  digit : isDigit c = false

/-- How a text that is skipped is parted from what is behind it. -/
inductive Parted (used rest : Text) : Prop
  /-- No identifier character is behind it. -/
  | rest : Stops isIdentChar rest → Parted used rest
  /-- Its last character is none. -/
  | last (before : Text) (c : Char) : used = before ++ [c] → isIdentChar c = false →
      Parted used rest
  /-- It is a single character at which nothing starts. -/
  | single (c : Char) : used = [c] → isIdentStart c = false → isDigit c = false → Parted used rest

/-- So many characters of a text are parted from those behind them. -/
def PartedAt (length : Nat) (text : Text) : Prop :=
  ∃ used rest, text = used ++ rest ∧ length = used.length ∧ Parted used rest

namespace Lexeme

variable {afterPoint : Bool} {length : Nat} {text : Text}

/-! ## What is skipped -/

/-- A run of identifier characters has none behind it. -/
theorem exists_run (text : Text) :
    ∃ used rest, text = used ++ rest ∧ (text.takeWhile isIdentChar).length = used.length ∧
      Stops isIdentChar rest :=
  ⟨_, _, (List.takeWhile_append_dropWhile (p := isIdentChar) (l := text)).symm, rfl,
    stops_dropWhile isIdentChar text⟩

/-- A character literal ends with a quote, and a lifetime where its name does. -/
theorem character_parted (lead : Text) (noEscape : ¬ ['\\'] <+: text)
    (found : character lead.length text = .skip length) :
    PartedAt length (lead ++ '\'' :: text) := by
  unfold character at found
  split at found
  · exact absurd ⟨_, rfl⟩ noEscape
  · rename_i c rest _
    cases found
    refine ⟨lead ++ ['\'', c, '\''], rest, by simp, by simp, ?_⟩
    exact .last (lead ++ ['\'', c]) '\'' (by simp) (by decide)
  · cases found
    obtain ⟨run, rest, whole, size, stops⟩ := exists_run text
    refine ⟨lead ++ '\'' :: run, rest, ?_, ?_, .rest stops⟩
    · rw [whole]
      simp
    · rw [size]
      simp only [List.length_append, List.length_cons]
      omega

/-- A line comment ends before a line feed, or at the end of the text. -/
theorem lineComment_parted (text : Text) :
    PartedAt (text.takeWhile (· != '\n')).length text := by
  refine ⟨_, _, (List.takeWhile_append_dropWhile (p := (· != '\n')) (l := text)).symm, rfl, .rest ?_⟩
  intro c first
  obtain rfl : c = '\n' := by simpa using stops_dropWhile (· != '\n') text c first
  decide

/-- A construct ends with its closer. -/
theorem construct_parted {construct : Construct} {opener : Text} (opens : construct.Opening opener)
    (leads : opener <+: text) (found : read afterPoint text = .skip length) :
    PartedAt length text := by
  obtain ⟨used, rest, whole, spelled, size⟩ := Construct.exists_spelling opens leads found
  obtain ⟨before, c, same, closes⟩ := spelled.exists_last
  exact ⟨used, rest, whole, size, .last before c same (Construct.not_isIdentChar_of_closers closes)⟩

/-- What opens no construct, but starts with a letter, is an identifier, a character literal or a
lifetime. -/
theorem lettered_parted (plain : ∀ (construct : Construct) (opener : Text),
    construct.Opening opener → ¬ opener <+: text) (found : lettered text = .skip length) :
    PartedAt length text := by
  by_cases quote : ['b', '\''] <+: text
  · obtain ⟨body, rfl⟩ := quote
    have noEscape : ¬ ['\\'] <+: body := by
      rintro ⟨behind, rfl⟩
      exact plain .character _ (@Construct.Opening.character ['b'] (by decide)) ⟨behind, rfl⟩
    exact character_parted ['b'] noEscape found
  · have none : ∀ opener, Opener opener → ¬ opener <+: text := by
      intro opener opens
      cases opens with
      | @string c either =>
        have led : [c] ∈ Construct.leads .string := by rcases either with rfl | rfl <;> decide
        exact plain .string _ (.string led)
      | character => exact quote
      | @raw lead hashes either =>
        have led : lead ∈ Construct.leads .rawString := by simpa [Construct.leads] using either
        exact plain .rawString _ (.rawString hashes led)
    rw [lettered_eq_word none, word] at found
    cases found
    obtain ⟨run, rest, whole, size, stops⟩ := exists_run text
    exact ⟨run, rest, whole, size, .rest stops⟩

/-- What is skipped has no identifier character behind it or at its own end, or it is a single character
at which nothing starts. -/
theorem read_parted (filled : text ≠ []) (found : read afterPoint text = .skip length) :
    PartedAt length text := by
  by_cases opened : ∃ (construct : Construct) (opener : Text),
      construct.Opening opener ∧ opener <+: text
  · obtain ⟨construct, opener, opens, leads⟩ := opened
    exact construct_parted opens leads found
  have plain : ∀ (construct : Construct) (opener : Text),
      construct.Opening opener → ¬ opener <+: text :=
    fun construct opener opens leads => opened ⟨construct, opener, opens, leads⟩
  unfold read at found
  split at found
  · exact absurd rfl filled
  · cases found
  · cases found
    exact lineComment_parted _
  · rename_i rest
    exact absurd ⟨rest, rfl⟩ (plain .comment _ .comment)
  · rename_i rest
    exact absurd ⟨rest, rfl⟩ (plain .string _ (@Construct.Opening.string [] (by decide)))
  · rename_i rest
    have noEscape : ¬ ['\\'] <+: rest := by
      rintro ⟨behind, rfl⟩
      exact plain .character _ (@Construct.Opening.character [] (by decide)) ⟨behind, rfl⟩
    exact character_parted [] noEscape found
  · rename_i c rest _ _ _ _ _
    split at found
    · cases found
    rename_i noDigit
    split at found
    · exact lettered_parted plain found
    · rename_i noStart
      cases found
      exact ⟨[c], rest, rfl, rfl, .single c rfl (by simpa using noStart) (by simpa using noDigit)⟩

end Lexeme

/-! ## The scan -/

namespace Cursor

variable {cursor : Cursor} {source : Text}

/-- Where a number would not be cut off from what is before it: no identifier character comes next, or
none but strays are right behind. -/
def Clear (cursor : Cursor) : Prop :=
  Stops isIdentChar cursor.ahead ∨ ∀ c ∈ cursor.behind.takeWhile isIdentChar, IsStray c

theorem clear_start (source : Text) : (start source).Clear := by
  apply Or.inr
  intro c member
  cases member

/-- Where an identifier character comes next, only strays are right behind. -/
theorem Clear.strays {c : Char} {rest : Text} (clear : cursor.Clear) (ahead : cursor.ahead = c :: rest)
    (ident : isIdentChar c = true) : ∀ d ∈ cursor.behind.takeWhile isIdentChar, IsStray d := by
  rcases clear with stops | strays
  · rw [ahead] at stops
    rw [stops_cons.mp stops] at ident
    cases ident
  · exact strays

/-- Skipping keeps a cursor clear. -/
theorem Clear.skip {length : Nat} (clear : cursor.Clear) (filled : cursor.ahead ≠ [])
    (found : Lexeme.read cursor.isAfterPoint cursor.ahead = .skip length) :
    (cursor.advance length).Clear := by
  obtain ⟨used, rest, whole, rfl, parted⟩ := Lexeme.read_parted filled found
  obtain ⟨ahead, behind, -⟩ := advance_append whole
  cases parted with
  | rest stops =>
    apply Or.inl
    rwa [ahead]
  | last before c same outside =>
    apply Or.inr
    rw [behind, same, List.reverse_append, List.reverse_singleton, List.singleton_append,
      List.cons_append, List.takeWhile_cons_of_neg (by simp [outside])]
    intro d member
    cases member
  | single c same noStart noDigit =>
    subst same
    apply Or.inr
    rw [behind, List.reverse_singleton, List.singleton_append]
    by_cases ident : isIdentChar c = true
    · rw [List.takeWhile_cons_of_pos ident]
      intro d member
      rcases List.mem_cons.mp member with rfl | before
      · exact ⟨ident, noStart, noDigit⟩
      · exact clear.strays whole ident d before
    · rw [List.takeWhile_cons_of_neg ident]
      intro d member
      cases member

end Cursor

/-- A token with no identifier characters around it, but for strays before it. -/
structure Token.Bordered (source : Text) (token : Token) : Prop where
  behind : ∀ c ∈ (source.drop token.span.stop.offset.toNat).head?, isIdentChar c = false
  before : ∀ c ∈ (source.take token.span.start.offset.toNat).reverse.takeWhile isIdentChar, IsStray c

/-- What a scan takes along for a number where it is clear is a token with such borders. -/
theorem Token.bordered_of_munch {source raw rest : Text} {cursor : Cursor}
    (within : cursor.Within source) (clear : cursor.Clear) (whole : cursor.ahead = raw ++ rest)
    (digit : Lexeme.StartsWithDigit raw) (munch : Lexeme.Munch cursor.isAfterPoint raw rest) :
    Token.Bordered source ⟨raw, ⟨cursor.position, (cursor.advance raw.length).position⟩⟩ := by
  have past := within.advance raw.length
  constructor
  · have beyond : source.drop (cursor.advance raw.length).offset = rest := by
      rw [← past.whole, past.offset, ← List.length_reverse, List.drop_left,
        (Cursor.advance_append whole).1]
    simp only [Cursor.position, Int.toNat_natCast, beyond]
    exact munch.stops
  · obtain ⟨c, starts, isDigit⟩ := digit
    obtain ⟨others, rfl⟩ := List.head?_eq_some_iff.mp starts
    simp only [Cursor.position, Int.toNat_natCast, within.take, List.reverse_reverse]
    exact clear.strays whole (isIdentChar_of_isDigit isDigit)

/-- From a clear place on, all tokens have such borders. -/
theorem Scanned.bordered {cursor : Cursor} {tokens : List Token} {source : Text}
    (scanned : Scanned cursor tokens) (within : cursor.Within source) (clear : cursor.Clear) :
    ∀ token ∈ tokens, token.Bordered source := by
  induction scanned with
  | done =>
    intro token member
    cases member
  | skip filled found _ ih => exact ih (within.advance _) (clear.skip filled found)
  | @number cursor raw rest _ whole digit munch _ ih =>
    have stops : (cursor.advance raw.length).Clear := by
      apply Or.inl
      rw [(Cursor.advance_append whole).1]
      exact munch.stops
    intro token member
    rcases List.mem_cons.mp member with rfl | later
    · exact Token.bordered_of_munch within clear whole digit munch
    · exact ih (within.advance _) stops token later

namespace Scan

/-- No identifier character stands right behind a token. Right before it there can be one that starts
neither an identifier nor a number, and then all identifier characters right before it are such. -/
theorem ofText_borders {source : Text} {tokens : List Token} {token : Token}
    (scanned : ofText source = .ok tokens) (emitted : token ∈ tokens) : token.Bordered source :=
  (ofText_eq_ok_iff.mp scanned).bordered (Cursor.within_start source) (Cursor.clear_start source)
    token emitted

/-- A fraction is skipped in an identifier, and by itself where it stands alone. -/
theorem ofText_borders_fraction :
    ofText ['x', '½', '1', ' ', '½', '5'] = .ok [⟨['5'], ⟨⟨1, 6, 5⟩, ⟨1, 7, 6⟩⟩⟩] ∧
      Token.Bordered ['x', '½', '1', ' ', '½', '5'] ⟨['5'], ⟨⟨1, 6, 5⟩, ⟨1, 7, 6⟩⟩⟩ := by
  have scanned : ofText ['x', '½', '1', ' ', '½', '5'] = .ok [⟨['5'], ⟨⟨1, 6, 5⟩, ⟨1, 7, 6⟩⟩⟩] := by
    decide +kernel
  exact ⟨scanned, ofText_borders scanned (List.mem_singleton.mpr rfl)⟩

/-- Digits right behind a stray are a token. -/
theorem ofText_stray {c : Char} {number : Text} (stray : IsStray c) (filled : number ≠ [])
    (digits : ∀ d ∈ number, d.isDigit = true) :
    ofText (c :: number) = .ok [.inFirstLine 1 number] := by
  have line : c ≠ '\n' := by
    rintro rfl
    exact absurd stray.ident (by decide)
  have skipped : Lexeme.read false (c :: number) = .skip 1 := by
    rw [Lexeme.read_of_isIdentChar stray.ident, if_neg (by simp [stray.digit]),
      if_neg (by simp [stray.start])]
  have first : ((Cursor.start (c :: number)).advance 1).FirstLine := by
    constructor <;> simp [Cursor.start, Cursor.advance, Cursor.next, line]
  have ahead : ((Cursor.start (c :: number)).advance 1).ahead = number ++ [] :=
    (List.append_nil number).symm
  have munch : Lexeme.Munch ((Cursor.start (c :: number)).advance 1).isAfterPoint number [] := by
    apply Lexeme.munch_of_digits digits (stops_nil _)
    rintro - ⟨others, same, -⟩
    cases same
  have scanned := scanned_number ahead (Lexeme.startsWithDigit_of_digits filled digits) munch first
    fun _ => .done (Cursor.advance_append ahead).1
  exact ofText_eq_ok_iff.mpr (.skip (List.cons_ne_nil c number) skipped scanned)

/-- So an identifier character can stand right before a token. -/
theorem ofText_behind_fraction :
    ofText ['½', '5'] = .ok [⟨['5'], ⟨⟨1, 2, 1⟩, ⟨1, 3, 2⟩⟩⟩] ∧
      ∃ c ∈ (['½', '5'].take 1).getLast?, isIdentChar c = true := by
  have stray : IsStray '½' := ⟨by decide +kernel, by decide +kernel, by decide +kernel⟩
  exact ⟨ofText_stray stray (by decide) (by decide), '½', rfl, stray.ident⟩

end Scan
end NumeralStyle
