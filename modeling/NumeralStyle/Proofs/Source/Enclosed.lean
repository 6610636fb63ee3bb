import NumeralStyle.Proofs.Source.Skipped

/-! The texts that hide numbers, by their grammar: comments, which nest, and quoted texts, in which
backslashes come in pairs with what they escape, or which end at a quote with number signs behind it.
What is read where such a text opens is skipped if and only if a text of the grammar stands there, and
then just that text is skipped (`Construct.read_eq_skip_iff`). -/
namespace NumeralStyle
open CharClass Text

/-! ## The grammar -/

/-- What is behind the opener of a comment, to the end of its closer: other comments, and characters
at which neither an opener nor a closer starts. -/
inductive CommentRest : Text → Prop
  | closer : CommentRest ['*', '/']
  | comment {inner rest : Text} : CommentRest inner → CommentRest rest →
      CommentRest ('/' :: '*' :: (inner ++ rest))
  | char {c : Char} {rest : Text} : ¬ ['/', '*'] <+: c :: rest → ¬ ['*', '/'] <+: c :: rest →
      CommentRest rest → CommentRest (c :: rest)

/-- A text of plain characters other than the backslash, and of pairs of a backslash and any
character. -/
inductive Escaped (plain : Char → Prop) : Text → Prop
  | nil : Escaped plain []
  | pair (c : Char) {rest : Text} : Escaped plain rest → Escaped plain ('\\' :: c :: rest)
  | char {c : Char} {rest : Text} : c ≠ '\\' → plain c → Escaped plain rest →
      Escaped plain (c :: rest)

/-- Where such a text cannot go on: at the end, at a backslash with nothing behind it, and at any other
character that is not plain. -/
inductive Halts (plain : Char → Prop) : Text → Prop
  | done : Halts plain []
  | cut : Halts plain ['\\']
  | stop {c : Char} {rest : Text} : c ≠ '\\' → ¬ plain c → Halts plain (c :: rest)

/-- A character that does not end a string. -/
def InString (c : Char) : Prop := c ≠ '"'

/-- A character that does not end a character literal, and can stand in one. -/
def InCharacter (c : Char) : Prop := c ≠ '\'' ∧ c ≠ '\n'

/-- The end of a raw string that starts with a number of number signs. -/
def rawCloser (hashes : Nat) : Text := '"' :: List.replicate hashes '#'

/-- Behind the body of a raw string the first closer comes. -/
def FirstCloser (hashes : Nat) (body : Text) : Prop :=
  ∀ before behind, body ++ rawCloser hashes = before ++ rawCloser hashes ++ behind → behind = []

/-- The kinds of text that hide numbers. A character literal is of these only where it starts with an
escape. -/
inductive Construct
  | comment
  | string
  | rawString
  | character
  deriving DecidableEq, Repr

namespace Construct

/-- The letters that a construct starts with. -/
def leads : Construct → List Text
  | .comment => [[]]
  | .string => [[], ['b'], ['c']]
  | .rawString => [['r'], ['b', 'r'], ['c', 'r']]
  | .character => [[], ['b']]

/-- What tells that a construct starts. -/
inductive Opening : Construct → Text → Prop
  | comment : Opening .comment ['/', '*']
  | string {lead : Text} : lead ∈ leads .string → Opening .string (lead ++ ['"'])
  | rawString {lead : Text} (hashes : Nat) : lead ∈ leads .rawString →
      Opening .rawString (lead ++ List.replicate hashes '#' ++ ['"'])
  | character {lead : Text} : lead ∈ leads .character → Opening .character (lead ++ ['\'', '\\'])

/-- The language of a construct. -/
inductive Spelling : Construct → Text → Prop
  | comment {rest : Text} : CommentRest rest → Spelling .comment (['/', '*'] ++ rest)
  | string {lead body : Text} : lead ∈ leads .string → Escaped InString body →
      Spelling .string (lead ++ ['"'] ++ (body ++ ['"']))
  | rawString {lead body : Text} (hashes : Nat) : lead ∈ leads .rawString →
      FirstCloser hashes body →
      Spelling .rawString (lead ++ List.replicate hashes '#' ++ ['"'] ++ (body ++ rawCloser hashes))
  | character {lead body : Text} (c : Char) : lead ∈ leads .character → Escaped InCharacter body →
      Spelling .character (lead ++ ['\'', '\\'] ++ (c :: body ++ ['\'']))

end Construct

/-! ## Comments -/

/-- What is left of comments that are open in each other, from the inmost to the outmost. -/
inductive CommentRests : Nat → Text → Prop
  | nil : CommentRests 0 []
  | cons {depth : Nat} {first others : Text} : CommentRest first → CommentRests depth others →
      CommentRests (depth + 1) (first ++ others)

namespace CommentRest

variable {rest : Text}

theorem ne_nil (closes : CommentRest rest) : rest ≠ [] := by
  cases closes <;> simp

theorem getLast?_eq (closes : CommentRest rest) : rest.getLast? = some '/' := by
  induction closes with
  | closer => rfl
  | @comment inner rest _ _ _ last =>
    rw [List.getLast?_cons, List.getLast?_cons, List.getLast?_append, last]
    rfl
  | @char c rest _ _ _ last =>
    rw [List.getLast?_cons, last]
    rfl

end CommentRest

namespace Lexeme

variable {count length : Nat} {text used rest : Text}

theorem add_length_cons (count : Nat) (c : Char) (text : Text) :
    count + (c :: text).length = count + 1 + text.length := by
  rw [List.length_cons]
  omega

theorem add_length_cons_cons (count : Nat) (c d : Char) (text : Text) :
    count + (c :: d :: text).length = count + 2 + text.length := by
  rw [List.length_cons, List.length_cons]
  omega

/-- Where what is left of the inmost comment has been read, the search goes on in the one around it. -/
theorem commentEnd_append {depth : Nat} (closes : CommentRest used) (rest : Text) :
    commentEnd count (depth + 1) (used ++ rest) = commentEnd (count + used.length) depth rest := by
  induction closes generalizing count depth rest with
  | closer => rfl
  | @comment inner others _ _ ihInner ihOthers =>
    rw [List.cons_append, List.cons_append, List.append_assoc, commentEnd, ihInner, ihOthers,
      add_length_cons_cons, List.length_append, ← Nat.add_assoc]
  | @char c others noOpener noCloser closes ih =>
    obtain ⟨d, behind, rfl⟩ := List.exists_cons_of_ne_nil closes.ne_nil
    rw [List.cons_append, commentEnd, ih, add_length_cons count c]
    · rintro _ rfl same
      obtain ⟨rfl, -⟩ := List.cons.inj same
      exact noOpener ⟨behind, rfl⟩
    · rintro _ rfl same
      obtain ⟨rfl, -⟩ := List.cons.inj same
      exact noCloser ⟨behind, rfl⟩

/-- The search for the end of comments that are open in each other goes past what is left of each. -/
theorem rests_of_commentEnd {depth : Nat} (found : commentEnd count depth text = some length) :
    ∃ used rest, text = used ++ rest ∧ CommentRests depth used ∧ length = count + used.length := by
  fun_induction commentEnd count depth text with
  | case1 =>
    cases found
    exact ⟨[], _, rfl, .nil, rfl⟩
  | case2 => cases found
  | case3 count depth behind ih =>
    obtain ⟨_, rest, rfl, rests, rfl⟩ := ih found
    cases rests with
    | @cons _ inner _ closes rests =>
      cases rests with
      | @cons _ outer others closes' rests =>
        refine ⟨'/' :: '*' :: (inner ++ outer) ++ others, rest, by simp,
          .cons (.comment closes closes') rests, ?_⟩
        simp only [List.length_append, List.length_cons]
        omega
  | case4 count depth behind ih =>
    obtain ⟨used, rest, rfl, rests, rfl⟩ := ih found
    refine ⟨['*', '/'] ++ used, rest, rfl, .cons .closer rests, ?_⟩
    simp only [List.length_append, List.length_cons, List.length_nil]
    omega
  | case5 count depth c behind noOpener noCloser ih =>
    obtain ⟨_, rest, rfl, rests, rfl⟩ := ih found
    cases rests with
    | @cons _ first others closes rests =>
      refine ⟨c :: first ++ others, rest, rfl, .cons (.char ?_ ?_ closes) rests, ?_⟩
      · rintro ⟨more, same⟩
        obtain ⟨rfl, rfl⟩ := List.cons.inj same
        exact noOpener (more ++ others ++ rest) rfl (by simp)
      · rintro ⟨more, same⟩
        obtain ⟨rfl, rfl⟩ := List.cons.inj same
        exact noCloser (more ++ others ++ rest) rfl (by simp)
      · simp only [List.length_append, List.length_cons]
        omega

/-- The depth of open comments follows their grammar. -/
theorem commentEnd_eq_some_iff :
    commentEnd count 1 text = some length ↔
      ∃ used rest, text = used ++ rest ∧ CommentRest used ∧ length = count + used.length := by
  constructor
  · intro found
    obtain ⟨_, rest, whole, rests, same⟩ := rests_of_commentEnd found
    cases rests with
    | @cons _ used _ closes rests =>
      cases rests
      rw [List.append_nil] at whole same
      exact ⟨used, rest, whole, closes, same⟩
  · rintro ⟨used, rest, rfl, closes, rfl⟩
    rw [commentEnd_append closes, commentEnd]

/-! ## Quoted texts -/

/-- Every text goes on for a while and then halts. -/
theorem exists_escaped (plain : Char → Prop) (text : Text) :
    ∃ body rest, text = body ++ rest ∧ Escaped plain body ∧ Halts plain rest := by
  match text with
  | [] => exact ⟨[], [], rfl, .nil, .done⟩
  | c :: others =>
    by_cases backslash : c = '\\'
    · subst backslash
      match others with
      | [] => exact ⟨[], _, rfl, .nil, .cut⟩
      | d :: others =>
        obtain ⟨body, rest, rfl, escaped, halts⟩ := exists_escaped plain others
        exact ⟨'\\' :: d :: body, rest, rfl, .pair d escaped, halts⟩
    · by_cases inside : plain c
      · obtain ⟨body, rest, rfl, escaped, halts⟩ := exists_escaped plain others
        exact ⟨c :: body, rest, rfl, .char backslash inside escaped, halts⟩
      · exact ⟨[], _, rfl, .nil, .stop backslash inside⟩

theorem stringEnd_append {body : Text} (escaped : Escaped InString body) (rest : Text) :
    stringEnd count (body ++ rest) = stringEnd (count + body.length) rest := by
  induction escaped generalizing count with
  | nil => rfl
  | pair c _ ih =>
    rw [List.cons_append, List.cons_append, stringEnd, ih, add_length_cons_cons]
  | char noBackslash plain _ ih =>
    rw [List.cons_append, stringEnd, ih, add_length_cons]
    · exact plain
    · exact fun _ _ same _ => noBackslash same

/-- A string ends at the first quote that is not the second of a pair. -/
theorem stringEnd_eq_some_iff :
    stringEnd count text = some length ↔
      ∃ body rest, text = body ++ '"' :: rest ∧ Escaped InString body ∧
        length = count + body.length + 1 := by
  constructor
  · intro found
    obtain ⟨body, rest, rfl, escaped, halts⟩ := exists_escaped InString text
    rw [stringEnd_append escaped] at found
    cases halts with
    | done => cases found
    | cut => simp [stringEnd] at found
    | @stop c rest _ quote =>
      obtain rfl : c = '"' := Classical.not_not.mp quote
      exact ⟨body, rest, rfl, escaped, (Option.some.inj found).symm⟩
  · rintro ⟨body, rest, rfl, escaped, rfl⟩
    rw [stringEnd_append escaped, stringEnd]

theorem escapedCharacter_append {start : Nat} {body : Text} (escaped : Escaped InCharacter body)
    (rest : Text) :
    escapedCharacter start count (body ++ rest) =
      escapedCharacter start (count + body.length) rest := by
  induction escaped generalizing count with
  | nil => rfl
  | pair c _ ih =>
    rw [List.cons_append, List.cons_append, escapedCharacter, ih, add_length_cons_cons]
  | char noBackslash plain _ ih =>
    rw [List.cons_append, escapedCharacter, ih, add_length_cons]
    · exact plain.2
    · exact plain.1
    · exact fun same _ => noBackslash same
    · exact fun _ _ same _ => noBackslash same

/-- A character literal ends at the first quote that is not the second of a pair, and is broken at the
end of its text or of its line; a backslash at the end of the text cuts it. -/
theorem escapedCharacter_cases (start count : Nat) (text : Text) :
    ∃ body rest, text = body ++ rest ∧ Escaped InCharacter body ∧
      ((∃ behind, rest = '\'' :: behind) ∧
          escapedCharacter start count text = .skip (count + body.length + 1) ∨
        rest = ['\\'] ∧ escapedCharacter start count text = .cutEscape (count + text.length) ∨
        escapedCharacter start count text = .broken .openCharacter start (count + body.length)) := by
  obtain ⟨body, rest, rfl, escaped, halts⟩ := exists_escaped InCharacter text
  refine ⟨body, rest, rfl, escaped, ?_⟩
  rw [escapedCharacter_append escaped]
  cases halts with
  | done => exact .inr (.inr rfl)
  | cut =>
    refine .inr (.inl ⟨rfl, ?_⟩)
    rw [escapedCharacter, List.length_append, Nat.add_assoc]
    rfl
  | @stop c rest _ special =>
    rcases Classical.not_and_iff_not_or_not.mp special with quote | feed
    · obtain rfl : c = '\'' := Classical.not_not.mp quote
      exact .inl ⟨⟨rest, rfl⟩, rfl⟩
    · obtain rfl : c = '\n' := Classical.not_not.mp feed
      exact .inr (.inr rfl)

theorem escapedCharacter_eq_skip_iff {start : Nat} :
    escapedCharacter start count text = .skip length ↔
      ∃ body rest, text = body ++ '\'' :: rest ∧ Escaped InCharacter body ∧
        length = count + body.length + 1 := by
  constructor
  · intro found
    obtain ⟨body, rest, whole, escaped, ⟨⟨behind, rfl⟩, same⟩ | ⟨-, same⟩ | same⟩ :=
      escapedCharacter_cases start count text
    · exact ⟨body, behind, whole, escaped, Lexeme.skip.inj (found.symm.trans same)⟩
    · cases found.symm.trans same
    · cases found.symm.trans same
  · rintro ⟨body, rest, rfl, escaped, rfl⟩
    rw [escapedCharacter_append escaped, escapedCharacter]

theorem closes_iff {hashes : Nat} {c : Char} :
    (c == '"' && (List.replicate hashes '#').isPrefixOf rest) = true ↔
      rawCloser hashes <+: c :: rest := by
  rw [Bool.and_eq_true, beq_iff_eq, List.isPrefixOf_iff_prefix, rawCloser, List.cons_prefix_cons,
    eq_comm]

/-- A raw string ends at the first closer. -/
theorem rawEnd_eq_some_iff {hashes : Nat} :
    rawEnd hashes count text = some length ↔
      ∃ body rest, text = body ++ rawCloser hashes ++ rest ∧ FirstCloser hashes body ∧
        length = count + body.length + hashes + 1 := by
  constructor
  · intro found
    fun_induction rawEnd hashes count text with
    | case1 => cases found
    | case2 count c rest closes =>
      cases found
      obtain ⟨rest, whole⟩ := closes_iff.mp closes
      refine ⟨[], rest, whole.symm, fun before behind same => ?_, rfl⟩
      have sizes := congrArg List.length same
      simp only [List.length_append, List.length_nil] at sizes
      exact List.length_eq_zero_iff.mp (by omega)
    | case3 count c rest goesOn ih =>
      obtain ⟨body, rest, rfl, first, rfl⟩ := ih found
      refine ⟨c :: body, rest, rfl, fun before behind same => ?_, ?_⟩
      · cases before with
        | nil =>
          have leads : rawCloser hashes <+: c :: body ++ rawCloser hashes := ⟨behind, same.symm⟩
          exact absurd (closes_iff.mpr (leads.trans (List.prefix_append _ rest))) goesOn
        | cons d before => exact first before behind (List.cons.inj same).2
      · simp only [List.length_cons]
        omega
  · rintro ⟨body, rest, rfl, first, rfl⟩
    induction body generalizing count with
    | nil => simp [rawCloser, rawEnd]
    | cons c body ih =>
      have goesOn : ¬ (c == '"' && (List.replicate hashes '#').isPrefixOf
          (body ++ rawCloser hashes ++ rest)) = true := by
        intro closes
        -- A closer at the start would be the first one, and there is one behind it.
        have leads : rawCloser hashes <+: c :: body ++ rawCloser hashes :=
          List.prefix_of_prefix_length_le (closes_iff.mp closes) (List.prefix_append _ rest)
            (by simp only [List.length_append]; omega)
        obtain ⟨behind, same⟩ := leads
        obtain rfl := first [] behind same.symm
        have sizes := congrArg List.length same
        simp only [List.length_append, List.length_cons, List.length_nil] at sizes
        omega
      rw [List.cons_append, List.cons_append, rawEnd, if_neg goesOn, ih]
      · simp only [List.length_cons, Option.some.injEq]
        omega
      · intro before behind same
        exact first (c :: before) behind (by simp [same])

/-! ## What is read at an opening -/

section
variable {afterPoint : Bool} {lead body : Text}

theorem read_lettered {c : Char} (letter : c ∈ ['b', 'c', 'r']) :
    read afterPoint (c :: rest) = lettered (c :: rest) := by
  have kinds : ∀ d ∈ ['b', 'c', 'r'],
      isIdentChar d = true ∧ isDigit d = false ∧ isIdentStart d = true := by decide
  obtain ⟨ident, noDigit, start⟩ := kinds c letter
  rw [read_of_isIdentChar ident, noDigit, start]
  rfl

theorem read_string (led : lead ∈ Construct.leads .string) :
    read afterPoint (lead ++ ['"'] ++ body) = string lead.length body := by
  simp only [Construct.leads, List.mem_cons, List.not_mem_nil, or_false] at led
  rcases led with rfl | rfl | rfl
  · rfl
  · exact read_lettered (by decide)
  · exact read_lettered (by decide)

theorem read_rawString (led : lead ∈ Construct.leads .rawString) (hashes : Nat) :
    read afterPoint (lead ++ List.replicate hashes '#' ++ ['"'] ++ body) =
      rawString lead.length hashes body := by
  simp only [Construct.leads, List.mem_cons, List.not_mem_nil, or_false] at led
  have lettered := @lettered_raw _ hashes led body
  rcases led with rfl | rfl | rfl
  · exact (read_lettered (by decide)).trans lettered
  · exact (read_lettered (by decide)).trans lettered
  · exact (read_lettered (by decide)).trans lettered

theorem read_character (led : lead ∈ Construct.leads .character) :
    read afterPoint (lead ++ ['\'', '\\'] ++ body) =
      escapedCharacter lead.length (lead.length + 1) ('\\' :: body) := by
  simp only [Construct.leads, List.mem_cons, List.not_mem_nil, or_false] at led
  rcases led with rfl | rfl
  · rfl
  · exact read_lettered (by decide)

end

end Lexeme

namespace Construct
open Lexeme

variable {construct : Construct} {afterPoint : Bool} {text used rest opener : Text} {length : Nat}

/-- What spells a construct is skipped, whatever comes behind it. -/
theorem read_of_spelling (spelled : construct.Spelling used) :
    read afterPoint (used ++ rest) = .skip used.length := by
  cases spelled with
  | @comment body closes =>
    have found : commentEnd 2 1 (body ++ rest) = some (2 + body.length) :=
      commentEnd_eq_some_iff.mpr ⟨body, rest, rfl, closes, rfl⟩
    refine orBroken_eq_skip_iff.mpr (found.trans ?_)
    simp only [List.length_append, List.length_cons, List.length_nil]
  | @string lead body led escaped =>
    rw [List.append_assoc, read_string led]
    refine orBroken_eq_skip_iff.mpr (stringEnd_eq_some_iff.mpr ⟨body, rest, by simp, escaped, ?_⟩)
    simp only [List.length_append, List.length_cons, List.length_nil]
    omega
  | @rawString lead body hashes led first =>
    rw [List.append_assoc, read_rawString led]
    refine orBroken_eq_skip_iff.mpr (rawEnd_eq_some_iff.mpr ⟨body, rest, rfl, first, ?_⟩)
    simp only [rawCloser, List.length_append, List.length_cons, List.length_nil, List.length_replicate]
    omega
  | @character lead body c led escaped =>
    rw [List.append_assoc, read_character led, escapedCharacter_eq_skip_iff]
    refine ⟨'\\' :: c :: body, rest, by simp, .pair c escaped, ?_⟩
    simp only [List.length_append, List.length_cons, List.length_nil]
    omega

/-- Where a construct opens, nothing is skipped but what spells it. -/
theorem exists_spelling (opens : construct.Opening opener) (leads : opener <+: text)
    (found : read afterPoint text = .skip length) :
    ∃ used rest, text = used ++ rest ∧ construct.Spelling used ∧ length = used.length := by
  obtain ⟨behind, rfl⟩ := leads
  cases opens with
  | comment =>
    obtain ⟨body, rest, rfl, closes, rfl⟩ := commentEnd_eq_some_iff.mp (orBroken_eq_skip_iff.mp found)
    refine ⟨_, rest, (List.append_assoc ..).symm, .comment closes, ?_⟩
    simp only [List.length_append, List.length_cons, List.length_nil]
  | string led =>
    rw [read_string led] at found
    obtain ⟨body, rest, rfl, escaped, rfl⟩ := stringEnd_eq_some_iff.mp (orBroken_eq_skip_iff.mp found)
    refine ⟨_, rest, by simp, .string led escaped, ?_⟩
    simp only [List.length_append, List.length_cons, List.length_nil]
    omega
  | rawString hashes led =>
    rw [read_rawString led] at found
    obtain ⟨body, rest, rfl, first, rfl⟩ := rawEnd_eq_some_iff.mp (orBroken_eq_skip_iff.mp found)
    refine ⟨_, rest, by simp, .rawString hashes led first, ?_⟩
    simp only [rawCloser, List.length_append, List.length_cons, List.length_nil, List.length_replicate]
    omega
  | character led =>
    rw [read_character led] at found
    cases behind with
    | nil => cases found
    | cons c behind =>
      rw [escapedCharacter, escapedCharacter_eq_skip_iff] at found
      obtain ⟨body, rest, rfl, escaped, rfl⟩ := found
      refine ⟨_, rest, by simp, .character c led escaped, ?_⟩
      simp only [List.length_append, List.length_cons, List.length_nil]
      omega

/-- No number opens a construct. -/
theorem read_ne_number (opens : construct.Opening opener) (leads : opener <+: text) :
    read afterPoint text ≠ .number length := by
  obtain ⟨behind, rfl⟩ := leads
  cases opens with
  | comment => exact orBroken_ne_number
  | string led =>
    rw [read_string led]
    exact orBroken_ne_number
  | rawString hashes led =>
    rw [read_rawString led]
    exact orBroken_ne_number
  | character led =>
    rw [read_character led]
    exact escapedCharacter_ne_number

/-- The characters with which constructs end. -/
def closers : Text := ['/', '"', '#', '\'']

theorem Spelling.exists_last (spelled : construct.Spelling used) :
    ∃ before c, used = before ++ [c] ∧ c ∈ closers := by
  cases spelled with
  | comment closes =>
    obtain ⟨before, rfl⟩ := List.getLast?_eq_some_iff.mp closes.getLast?_eq
    exact ⟨['/', '*'] ++ before, '/', by simp, by decide⟩
  | @string lead body => exact ⟨lead ++ ['"'] ++ body, '"', by simp, by decide⟩
  | @rawString lead body hashes =>
    cases hashes with
    | zero => exact ⟨lead ++ ['"'] ++ body, '"', by simp [rawCloser], by decide⟩
    | succ hashes =>
      refine ⟨lead ++ List.replicate (hashes + 1) '#' ++ ['"'] ++ (body ++ rawCloser hashes), '#', ?_,
        by decide⟩
      simp [rawCloser, List.replicate_succ']
  | @character lead body c => exact ⟨lead ++ ['\'', '\\'] ++ c :: body, '\'', by simp, by decide⟩

theorem ne_point_of_closers {c : Char} (closes : c ∈ closers) : c ≠ '.' := by
  rintro rfl
  exact absurd closes (by decide)

theorem not_isIdentChar_of_closers {c : Char} (closes : c ∈ closers) : isIdentChar c = false := by
  have outside : ∀ d ∈ closers, isIdentChar d = false := by decide
  exact outside c closes

/-- Where a construct opens, what is skipped is what spells it there. -/
theorem read_eq_skip_iff (opens : construct.Opening opener) (leads : opener <+: text) :
    read afterPoint text = .skip length ↔
      ∃ used rest, text = used ++ rest ∧ construct.Spelling used ∧ length = used.length := by
  refine ⟨exists_spelling opens leads, ?_⟩
  rintro ⟨used, rest, rfl, spelled, rfl⟩
  exact read_of_spelling spelled

end Construct
end NumeralStyle
