import NumeralStyle.CharClass.Identifier
import NumeralStyle.Literal.Radix

/-! The lexemes of Rust-like source text, as far as numbers need them. `Lexeme.read` measures what
stands at the start of a text: a number, or something that holds none, such as a comment, a string
or an identifier. It sees of the text before it only whether a lone point ends it. What it measures
is never empty (`Lexeme.read_advances`). -/
namespace NumeralStyle
open CharClass

/-- What is wrong with a source text. -/
inductive ScanFault
  | nul
  | openComment
  | openString
  | openRawString
  | openCharacter
  deriving DecidableEq, Repr

/-- The fault in words. -/
def ScanFault.message : ScanFault → String
  | .nul => "NUL character in source"
  | .openComment => "unterminated block comment"
  | .openString => "unterminated string literal"
  | .openRawString => "unterminated raw string literal"
  | .openCharacter => "unterminated character literal"

/-- What stands at the start of a text. Lengths count characters from there. -/
inductive Lexeme
  /-- A number. -/
  | number (length : Nat)
  /-- Anything without a number in it. -/
  | skip (length : Nat)
  /-- Something that does not end: where it starts, and how far the search for its end went. -/
  | broken (fault : ScanFault) (start length : Nat)
  /-- A character literal whose last escape has nothing behind its backslash. -/
  | cutEscape (length : Nat)
  deriving DecidableEq, Repr

namespace Lexeme

/-- Add a count to a length, if there is one. -/
def orBroken (fault : ScanFault) (start length : Nat) : Option Nat → Lexeme
  | some found => .skip found
  | none => .broken fault start length

/-- How far a block comment reaches in the text behind its opener, `count` characters having been
read: to the closer of the outermost of `depth` open comments. -/
def commentEnd (count : Nat) : (depth : Nat) → Text → Option Nat
  | 0, _ => some count
  | _ + 1, [] => none
  | depth + 1, '/' :: '*' :: rest => commentEnd (count + 2) (depth + 2) rest
  | depth + 1, '*' :: '/' :: rest => commentEnd (count + 2) depth rest
  | depth + 1, _ :: rest => commentEnd (count + 1) (depth + 1) rest

/-- How far a string reaches in the text behind its opening quote: to the first quote that no
backslash escapes. -/
def stringEnd (count : Nat) : Text → Option Nat
  | [] => none
  | '"' :: _ => some (count + 1)
  | '\\' :: _ :: rest => stringEnd (count + 2) rest
  | _ :: rest => stringEnd (count + 1) rest

/-- How far a raw string reaches in the text behind its opening quote: to the first quote that has
as many number signs behind it as the string started with. -/
def rawEnd (hashes count : Nat) : Text → Option Nat
  | [] => none
  | c :: rest =>
    if c == '"' && (List.replicate hashes '#').isPrefixOf rest then some (count + hashes + 1)
    else rawEnd hashes (count + 1) rest

/-- A character literal with an escape, in the text behind its opening quote at `start`: it ends at
the first quote that no backslash escapes, on the same line but for escaped line feeds. -/
def escapedCharacter (start count : Nat) : Text → Lexeme
  | [] => .broken .openCharacter start count
  | '\n' :: _ => .broken .openCharacter start count
  | '\'' :: _ => .skip (count + 1)
  | ['\\'] => .cutEscape (count + 1)
  | '\\' :: _ :: rest => escapedCharacter start (count + 2) rest
  | _ :: rest => escapedCharacter start (count + 1) rest

/-- A character literal, or the name of a lifetime or label, in the text behind a single quote that
has `start` characters before it. -/
def character (start : Nat) : Text → Lexeme
  | '\\' :: rest => escapedCharacter start (start + 1) ('\\' :: rest)
  | _ :: '\'' :: _ => .skip (start + 3)
  | text => .skip (start + 1 + (text.takeWhile isIdentChar).length)

/-- A string, in the text behind a double quote that has `start` characters before it. -/
def string (start : Nat) (text : Text) : Lexeme :=
  orBroken .openString start (start + 1 + text.length) (stringEnd (start + 1) text)

/-- The number signs between the `r` of a raw string and its opening quote, in the text behind the
`r`, and the text behind the quote. -/
def rawOpening? (text : Text) : Option (Nat × Text) :=
  match text.dropWhile (· == '#') with
  | '"' :: rest => some ((text.takeWhile (· == '#')).length, rest)
  | _ => none

/-- A raw string whose opener has `lead` characters up to its `r`. -/
def rawString (lead hashes : Nat) (text : Text) : Lexeme :=
  orBroken .openRawString 0 (lead + hashes + 1 + text.length)
    (rawEnd hashes (lead + hashes + 1) text)

/-- An identifier or keyword. -/
def word (text : Text) : Lexeme := .skip (text.takeWhile isIdentChar).length

/-- What starts with a letter or an underscore: a string, raw string or character literal that has a
letter in front, or else an identifier. -/
def lettered (text : Text) : Lexeme :=
  match text with
  | 'b' :: '"' :: rest | 'c' :: '"' :: rest => string 1 rest
  | 'b' :: '\'' :: rest => character 1 rest
  | 'b' :: 'r' :: rest | 'c' :: 'r' :: rest =>
    match rawOpening? rest with
    | some (hashes, body) => rawString 2 hashes body
    | none => word text
  | 'r' :: rest =>
    match rawOpening? rest with
    | some (hashes, body) => rawString 1 hashes body
    | none => word text
  | _ => word text

/-- The sign and the digits of an exponent, in the text behind `number`, if `number` ends with the
letter of an exponent and has no letter before it. -/
def signedExponent (number text : Text) : Text :=
  match number.reverse, text with
  | letter :: before, sign :: digit :: rest =>
    if (letter == 'e' || letter == 'E') && !before.any isLetter && (sign == '+' || sign == '-') &&
        isDigit digit then
      sign :: (digit :: rest).takeWhile isIdentChar
    else []
  | _, _ => []

/-- Whether a point that follows the digits `number` belongs to the number: not the first of two
points, which make a range, and not the one before a name, which makes a call or a field. -/
def takesPoint (number text : Text) : Bool :=
  (match text with
    | ['.'] => true
    | '.' :: next :: _ => next != '.' && !isIdentStart next
    | _ => false) &&
  number.all fun c => isDigit c || c == '_'

/-- The spelling of the number at the start of a text. It is the longest run of identifier
characters, and in base ten also a point with the run behind it and the sign of an exponent with the
run behind that. Behind a lone point a number has no point of its own, because the two then index a
tuple twice. -/
def numberText (afterPoint : Bool) (text : Text) : Text :=
  let run := text.takeWhile isIdentChar
  let rest := text.dropWhile isIdentChar
  if (Radix.split text).1 ≠ .decimal then run
  else
    let signed := signedExponent run rest
    if signed ≠ [] then run ++ signed
    else if !afterPoint && takesPoint run rest then
      let pointed := run ++ '.' :: rest.tail.takeWhile isIdentChar
      pointed ++ signedExponent pointed (rest.tail.dropWhile isIdentChar)
    else run

/-- What stands at the start of a text. `afterPoint` says whether the text before it ends with one
point and not with two. -/
def read (afterPoint : Bool) (text : Text) : Lexeme :=
  match text with
  | [] => .skip 1
  | '\x00' :: _ => .broken .nul 0 0
  | '/' :: '/' :: _ => .skip (text.takeWhile (· != '\n')).length
  | '/' :: '*' :: rest => orBroken .openComment 0 text.length (commentEnd 2 1 rest)
  | '"' :: rest => string 0 rest
  | '\'' :: rest => character 0 rest
  | c :: _ =>
    if isDigit c then .number (numberText afterPoint text).length
    else if isIdentStart c then lettered text
    else .skip 1

/-- A lexeme that the scan goes past covers at least one character. -/
def Advances : Lexeme → Prop
  | .number length => 0 < length
  | .skip length => 0 < length
  | _ => True

private theorem orBroken_advances {fault : ScanFault} {start length : Nat} {found : Option Nat}
    (positive : ∀ n, found = some n → 0 < n) : (orBroken fault start length found).Advances := by
  cases found with
  | none => trivial
  | some n => exact positive n rfl

theorem le_of_commentEnd {count depth n : Nat} {text : Text}
    (found : commentEnd count depth text = some n) : count ≤ n := by
  fun_induction commentEnd count depth text with
  | case1 => simp_all
  | case2 => simp at found
  | case3 _ _ _ ih => have := ih found; omega
  | case4 _ _ _ ih => have := ih found; omega
  | case5 _ _ _ _ _ _ ih => have := ih found; omega

theorem lt_of_stringEnd {count n : Nat} {text : Text} (found : stringEnd count text = some n) :
    count < n := by
  fun_induction stringEnd count text with
  | case1 => simp at found
  | case2 => simp at found; omega
  | case3 _ _ _ ih => have := ih found; omega
  | case4 _ _ _ _ _ ih => have := ih found; omega

theorem lt_of_rawEnd {hashes count n : Nat} {text : Text}
    (found : rawEnd hashes count text = some n) : count < n := by
  fun_induction rawEnd hashes count text with
  | case1 => simp at found
  | case2 => simp at found; omega
  | case3 _ _ _ _ ih => have := ih found; omega

theorem escapedCharacter_advances (start count : Nat) (text : Text) :
    (escapedCharacter start count text).Advances := by
  fun_induction escapedCharacter start count text <;> simp_all [Advances]

theorem character_advances (start : Nat) (text : Text) : (character start text).Advances := by
  unfold character
  split
  · exact escapedCharacter_advances ..
  · simp [Advances]
  · simp only [Advances]; omega

theorem string_advances (start : Nat) (text : Text) : (string start text).Advances :=
  orBroken_advances fun _ found => Nat.lt_of_le_of_lt (Nat.zero_le _) (lt_of_stringEnd found)

theorem rawString_advances (lead hashes : Nat) (text : Text) :
    (rawString lead hashes text).Advances :=
  orBroken_advances fun _ found => Nat.lt_of_le_of_lt (Nat.zero_le _) (lt_of_rawEnd found)

private theorem takeWhile_pos {test : Char → Bool} {c : Char} {rest : Text}
    (first : test c = true) : 0 < ((c :: rest).takeWhile test).length := by
  simp [first]

theorem word_advances {c : Char} {rest : Text} (start : isIdentStart c = true) :
    (word (c :: rest)).Advances :=
  takeWhile_pos (isIdentChar_of_isIdentStart start)

theorem lettered_advances {c : Char} {rest : Text} (start : isIdentStart c = true) :
    (lettered (c :: rest)).Advances := by
  unfold lettered
  split
  · exact string_advances ..
  · exact string_advances ..
  · exact character_advances ..
  · split
    · exact rawString_advances ..
    · exact word_advances start
  · split
    · exact rawString_advances ..
    · exact word_advances start
  · split
    · exact rawString_advances ..
    · exact word_advances start
  · exact word_advances start

theorem takeWhile_prefix_numberText (afterPoint : Bool) (text : Text) :
    text.takeWhile isIdentChar <+: numberText afterPoint text := by
  unfold numberText
  dsimp only
  split
  · exact List.prefix_rfl
  · split
    · exact List.prefix_append ..
    · split
      · rw [List.append_assoc]; exact List.prefix_append ..
      · exact List.prefix_rfl

theorem read_advances (afterPoint : Bool) {text : Text} : (read afterPoint text).Advances := by
  unfold read
  split
  · simp [Advances]
  · trivial
  · exact takeWhile_pos (by decide)
  · exact orBroken_advances fun _ found =>
      Nat.lt_of_lt_of_le (by decide : 0 < 2) (le_of_commentEnd found)
  · exact string_advances ..
  · exact character_advances ..
  · rename_i c rest _ _ _ _ _
    split
    · rename_i digit
      exact Nat.lt_of_lt_of_le (takeWhile_pos (isIdentChar_of_isDigit digit))
        (takeWhile_prefix_numberText afterPoint (c :: rest)).length_le
    · split
      · rename_i start
        exact lettered_advances start
      · simp [Advances]

end Lexeme
end NumeralStyle
