import Mathlib.Data.List.Basic
import NumeralStyle.Proofs.Literal.Known
import NumeralStyle.Proofs.Source.Alike
import NumeralStyle.Proofs.Source.Joined

/-! Chains of fields and ranges behind a name. The point before a field belongs to no number, and
neither do the two points of a range. Only a number behind a range takes a point behind it along, and
then it takes the digits there too. So the neighbours of a number tell which token it makes
(`Link.token?`), however long the chain is (`Scan.ofText_chain`). -/
namespace NumeralStyle
open CharClass Literal Text

/-- What stands before a number in a chain: the point of a field, or the two points of a range. -/
inductive Joint
  | field
  | range
  deriving DecidableEq, Repr

def Joint.text : Joint → Text
  | .field => ['.']
  | .range => ['.', '.']

/-- A number in a chain, and what stands before it. -/
structure Link where
  joint : Joint
  number : Text
  filled : number ≠ []
  digits : ∀ c ∈ number, c.isDigit = true

def Link.text (link : Link) : Text := link.joint.text ++ link.number

/-- A name with links behind it. -/
def chain (links : List Link) : Text := 't' :: links.flatMap Link.text

/-- A token in the first line, an offset from its start. -/
def Token.inFirstLine (offset : Nat) (raw : Text) : Token :=
  ⟨raw, ⟨⟨1, offset + 1, offset⟩, ⟨1, offset + raw.length + 1, offset + raw.length⟩⟩⟩

/-- The token that a link makes, given what stands before the number in front of it, and the link
behind it. A range and a field make one floating point number, which is the token of the range. -/
def Link.token? (offset : Nat) (before : Option Joint) (link : Link) (behind : Option Link) :
    Option Token :=
  match before, link.joint, behind with
  | some .range, .field, _ => none
  | _, .range, some ⟨.field, fraction, _, _⟩ =>
    some (.inFirstLine (offset + link.joint.text.length) (link.number ++ '.' :: fraction))
  | _, _, _ => some (.inFirstLine (offset + link.joint.text.length) link.number)

/-- The tokens of the links from an offset on, given what stands before the number in front of them. -/
def chainTokens (offset : Nat) (before : Option Joint) : List Link → List Token
  | [] => []
  | link :: links =>
    (link.token? offset before links.head?).toList ++
      chainTokens (offset + link.text.length) (some link.joint) links

/-! ## Numbers in a chain -/

namespace Lexeme

variable {number fraction rest : Text}

theorem isPlain_of_digits (digits : ∀ c ∈ number, c.isDigit = true) : IsPlain number :=
  fun c member => .inl (isDigit_of_decimal (digits c member))

theorem startsWithDigit_of_digits (filled : number ≠ []) (digits : ∀ c ∈ number, c.isDigit = true) :
    StartsWithDigit number := by
  obtain ⟨c, others, rfl⟩ := List.exists_cons_of_ne_nil filled
  exact ⟨c, rfl, isDigit_of_decimal (digits c (by simp))⟩

/-- Digits alone name no base. -/
theorem split_of_digits (digits : ∀ c ∈ number, c.isDigit = true) :
    (Radix.split number).1 = .decimal := by
  have decimal : Radix.split number = (.decimal, number) := by
    apply Radix.split_decimal_iff.mpr
    intro radix base leads
    obtain ⟨c, letter, member⟩ := exists_mem_lead base
    have outside : ∀ d ∈ ['x', 'o', 'b'], d.isDigit = false := by decide
    have digit := digits c (leads.subset member)
    rw [outside c letter] at digit
    cases digit
  rw [decimal]

/-- Digits without a point to take along are a number. -/
theorem munch_of_digits {afterPoint : Bool} (digits : ∀ c ∈ number, c.isDigit = true)
    (stops : Stops isIdentChar rest) (alone : afterPoint = false → ¬ PointAhead rest) :
    Munch afterPoint number rest := by
  have plain := isPlain_of_digits digits
  apply Munch.plain (split_of_digits digits) plain.isIdent stops
  · exact fun marked => not_endsInMark_of_isPlain plain marked.1
  · exact fun own => alone own.1 own.2.2

/-- Digits on both sides of a point are a number. -/
theorem munch_of_fraction (whole : ∀ c ∈ number, c.isDigit = true) (filled : fraction ≠ [])
    (digits : ∀ c ∈ fraction, c.isDigit = true) (stops : Stops isIdentChar rest) :
    Munch false (number ++ '.' :: fraction) rest := by
  have ahead : PointAhead ('.' :: (fraction ++ rest)) := by
    obtain ⟨c, others, rfl⟩ := List.exists_cons_of_ne_nil filled
    have digit := digits c (by simp)
    apply pointAhead_cons.mpr
    intro d first
    obtain rfl : c = d := Option.some.inj first
    refine ⟨?_, not_isIdentStart_of_decimal digit⟩
    rintro rfl
    exact absurd digit (by decide)
  have unmarked : ¬ EndsInMark (number ++ '.' :: fraction) := by
    rintro ⟨before, letter, same, marks, -⟩
    have member : letter ∈ number ++ '.' :: fraction := by
      rw [same]
      simp
    have none : letter.isDigit = false ∧ letter ≠ '.' := by rcases marks with rfl | rfl <;> decide
    rcases List.mem_append.mp member with inWhole | behind
    · rw [whole letter inWhole] at none
      cases none.1
    · rcases List.mem_cons.mp behind with point | inFraction
      · exact none.2 point
      · rw [digits letter inFraction] at none
        cases none.1
  exact .pointed (split_of_digits whole) (isPlain_of_digits whole) rfl ahead
    (isPlain_of_digits digits).isIdent stops fun marked => unmarked marked.1

theorem read_point (afterPoint : Bool) (rest : Text) : read afterPoint ('.' :: rest) = .skip 1 := by
  rw [read_of_other (by decide) fun slash => absurd slash (by decide), if_neg (by decide),
    if_neg (by decide)]

end Lexeme

namespace Link

variable {offset : Nat} {before : Option Joint}

theorem last_ne_point (link : Link) : ∀ c ∈ link.number.getLast?, c ≠ '.' := by
  rintro c last rfl
  exact absurd (link.digits '.' (List.mem_of_getLast? last)) (by decide)

/-- A link that is not joined with the one before it or behind it makes a token of its own. -/
theorem token?_own {link : Link} {behind : Option Link}
    (fresh : before = some .range → link.joint = .range)
    (alone : link.joint = .range → ∀ next ∈ behind, next.joint = .range) :
    link.token? offset before behind =
      some (.inFirstLine (offset + link.joint.text.length) link.number) := by
  unfold token?
  split
  · rename_i field
    cases field.symm.trans (fresh rfl)
  · rename_i range
    cases alone range _ rfl
  · rfl

/-- A range and a field behind it make one token. -/
theorem token?_range {link next : Link} (range : link.joint = .range) (field : next.joint = .field) :
    link.token? offset before (some next) =
      some (.inFirstLine (offset + link.joint.text.length) (link.number ++ '.' :: next.number)) := by
  obtain ⟨joint, number, filled, digits⟩ := link
  obtain ⟨joint', fraction, filled', digits'⟩ := next
  obtain rfl : joint = .range := range
  obtain rfl : joint' = .field := field
  unfold token?
  split
  · rename_i none
    cases none
  · rename_i same
    cases same
    rfl
  · rename_i other
    exact absurd rfl (other fraction filled' digits' rfl)

theorem token?_field {next : Link} {behind : Option Link} (field : next.joint = .field) :
    next.token? offset (some .range) behind = none := by
  unfold token?
  rw [field]

theorem chainTokens_own {link : Link} {links : List Link}
    (fresh : before = some .range → link.joint = .range)
    (alone : link.joint = .range → ∀ next ∈ links.head?, next.joint = .range) :
    chainTokens offset before (link :: links) =
      .inFirstLine (offset + link.joint.text.length) link.number ::
        chainTokens (offset + link.text.length) (some link.joint) links := by
  rw [chainTokens, token?_own fresh alone, Option.toList_some, List.singleton_append]

theorem chainTokens_range {link next : Link} (range : link.joint = .range)
    (field : next.joint = .field) (links : List Link) :
    chainTokens offset before (link :: next :: links) =
      .inFirstLine (offset + link.joint.text.length) (link.number ++ '.' :: next.number) ::
        chainTokens (offset + (link.text ++ next.text).length) (some .field) links := by
  rw [chainTokens, List.head?_cons, token?_range range field, Option.toList_some,
    List.singleton_append, chainTokens, range, token?_field field, Option.toList_none,
    List.nil_append, field, List.length_append, Nat.add_assoc]

/-- Links start with a point, if there are any. -/
theorem exists_flatMap_eq (link : Link) (links : List Link) :
    ∃ more, (link :: links).flatMap text = '.' :: more := by
  rw [List.flatMap_cons, text]
  cases link.joint with
  | field => exact ⟨_, rfl⟩
  | range => exact ⟨_, rfl⟩

theorem stops_flatMap (links : List Link) : Stops isIdentChar (links.flatMap text) := by
  cases links with
  | nil => exact stops_nil _
  | cons link links =>
    obtain ⟨more, same⟩ := exists_flatMap_eq link links
    rw [same]
    exact stops_cons.mpr Lexeme.point_not_ident

/-- The points of a range belong to no number before them. -/
theorem not_pointAhead_flatMap {links : List Link} (range : ∀ next ∈ links.head?, next.joint = .range) :
    ¬ Lexeme.PointAhead (links.flatMap text) := by
  cases links with
  | nil =>
    rintro ⟨others, same, -⟩
    cases same
  | cons link links =>
    rw [List.flatMap_cons, text, range link rfl]
    intro ahead
    exact (Lexeme.pointAhead_cons.mp ahead '.' rfl).1 rfl

/-- The number of a link that is not joined with the one behind it ends before that. -/
theorem munch_own {link : Link} {links : List Link}
    (alone : link.joint = .range → ∀ next ∈ links.head?, next.joint = .range) :
    Lexeme.Munch (link.joint == .field) link.number (links.flatMap text) := by
  apply Lexeme.munch_of_digits link.digits (stops_flatMap links)
  intro lone
  apply not_pointAhead_flatMap
  apply alone
  cases joint : link.joint with
  | field => simp [joint] at lone
  | range => rfl

/-- The number of a range goes on into the field behind it, and ends there. -/
theorem munch_range {link next : Link} (range : link.joint = .range) (links : List Link) :
    Lexeme.Munch (link.joint == .field) (link.number ++ '.' :: next.number)
      (links.flatMap text) := by
  rw [range]
  exact Lexeme.munch_of_fraction link.digits next.filled next.digits (stops_flatMap links)

theorem startsWithDigit (link : Link) : Lexeme.StartsWithDigit link.number :=
  Lexeme.startsWithDigit_of_digits link.filled link.digits

end Link

/-! ## The scan -/

namespace Scan
open Lexeme

variable {cursor : Cursor} {tokens : List Token} {joint : Joint} {rest : Text}

/-- A scan goes past the points of a joint. -/
theorem scanned_joint (ahead : cursor.ahead = joint.text ++ rest)
    (behind : Scanned (cursor.advance joint.text.length) tokens) : Scanned cursor tokens := by
  have point {cursor : Cursor} {rest : Text} (ahead : cursor.ahead = '.' :: rest)
      (behind : Scanned (cursor.advance 1) tokens) : Scanned cursor tokens := by
    apply Scanned.skip (by simp [ahead]) _ behind
    rw [ahead, read_point]
  cases joint with
  | field => exact point ahead behind
  | range =>
    have next : (cursor.advance 1).ahead = '.' :: rest := by
      rw [Cursor.ahead_advance, ahead]
      rfl
    exact point ahead (point next behind)

/-- Behind the joint that a cursor has come past, a number has a point of its own just if that was a
range. -/
theorem isAfterPoint_joint (ahead : cursor.ahead = joint.text ++ rest)
    (apart : ∀ c ∈ cursor.behind.head?, c ≠ '.') :
    (cursor.advance joint.text.length).isAfterPoint = (joint == .field) := by
  have behind := (Cursor.advance_append ahead).2.1
  unfold Cursor.isAfterPoint
  rw [behind]
  cases joint with
  | field =>
    cases found : cursor.behind with
    | nil => rfl
    | cons c others =>
      have other := apart c (by simp [found])
      simp [Joint.text, other]
  | range => rfl

/-- A number behind a joint is the next token. -/
theorem scanned_link {raw : Text} (ahead : cursor.ahead = joint.text ++ (raw ++ rest))
    (apart : ∀ c ∈ cursor.behind.head?, c ≠ '.') (first : cursor.FirstLine)
    (digit : StartsWithDigit raw) (munch : Munch (joint == .field) raw rest)
    (last : ∀ c ∈ raw.getLast?, c ≠ '.')
    (behind : ∀ past : Cursor, past.ahead = rest → (∀ c ∈ past.behind.head?, c ≠ '.') →
      past.FirstLine → past.offset = cursor.offset + (joint.text ++ raw).length →
      Scanned past tokens) :
    Scanned cursor (.inFirstLine (cursor.offset + joint.text.length) raw :: tokens) := by
  have none : '\n' ∉ joint.text := by cases joint <;> decide
  have start := first.advance ahead none
  rw [← isAfterPoint_joint ahead apart] at munch
  obtain ⟨ahead', -, offset⟩ := Cursor.advance_append ahead
  obtain ⟨ahead'', behind', offset'⟩ := Cursor.advance_append ahead'
  have scanned := scanned_number ahead' digit munch start fun past =>
    behind _ ahead'' ?_ past ?_
  · apply scanned_joint ahead
    rw [Token.inFirstLine, ← offset]
    exact scanned
  · intro c head
    obtain ⟨d, starts, -⟩ := digit
    obtain ⟨others, rfl⟩ := List.head?_eq_some_iff.mp starts
    rw [behind', List.head?_append, List.head?_reverse] at head
    exact last c (by simpa using head)
  · rw [offset', offset, List.length_append, Nat.add_assoc]

/-- A scan of links finds their tokens, unless the number in front of them takes the first one along. -/
theorem scanned_chain (links : List Link) {cursor : Cursor} {before : Option Joint}
    (ahead : cursor.ahead = links.flatMap Link.text) (apart : ∀ c ∈ cursor.behind.head?, c ≠ '.')
    (first : cursor.FirstLine)
    (fresh : before = some .range → ∀ next ∈ links.head?, next.joint = .range) :
    Scanned cursor (chainTokens cursor.offset before links) := by
  match links with
  | [] => exact .done ahead
  | link :: links =>
    by_cases alone : link.joint = .range → ∀ next ∈ links.head?, next.joint = .range
    · have whole : cursor.ahead = link.joint.text ++ (link.number ++ links.flatMap Link.text) := by
        rw [ahead, List.flatMap_cons, Link.text, List.append_assoc]
      rw [Link.chainTokens_own (fun range => fresh range link rfl) alone]
      apply scanned_link whole apart first link.startsWithDigit (Link.munch_own alone)
        link.last_ne_point
      intro past ahead' apart' first' offset
      rw [Link.text, ← offset]
      exact scanned_chain links ahead' apart' first' fun range => alone (Option.some.inj range)
    · -- The number behind the range goes on into the field, so the scan takes two links in one step.
      simp only [Classical.not_imp, Classical.not_forall] at alone
      obtain ⟨range, next, second, other⟩ := alone
      obtain ⟨links, rfl⟩ := List.head?_eq_some_iff.mp second
      have field : next.joint = .field := by
        cases joint : next.joint with
        | field => rfl
        | range => exact absurd joint other
      have digit : StartsWithDigit (link.number ++ '.' :: next.number) := by
        obtain ⟨c, starts, digit⟩ := link.startsWithDigit
        obtain ⟨others, same⟩ := List.head?_eq_some_iff.mp starts
        exact ⟨c, by rw [same]; rfl, digit⟩
      have last : ∀ c ∈ (link.number ++ '.' :: next.number).getLast?, c ≠ '.' := by
        rw [List.append_cons, List.getLast?_append_of_ne_nil _ next.filled]
        exact next.last_ne_point
      have spelled : link.text ++ next.text =
          link.joint.text ++ (link.number ++ '.' :: next.number) := by
        simp [Link.text, field, Joint.text]
      have whole : cursor.ahead = link.joint.text ++
          ((link.number ++ '.' :: next.number) ++ links.flatMap Link.text) := by
        rw [ahead, List.flatMap_cons, List.flatMap_cons, ← List.append_assoc, spelled,
          List.append_assoc]
      rw [Link.chainTokens_range range field]
      apply scanned_link whole apart first digit (Link.munch_range range links) last
      intro past ahead' apart' first' offset
      rw [spelled, ← offset]
      exact scanned_chain links ahead' apart' first' (by simp)
termination_by links.length

/-- The name in front of a chain is skipped. -/
theorem read_chain (links : List Link) : read false (chain links) = .skip 1 := by
  have stops := Link.stops_flatMap links
  have run : ('t' :: links.flatMap Link.text).takeWhile isIdentChar = ['t'] := by
    rw [List.takeWhile_cons_of_pos (by decide)]
    cases found : links.flatMap Link.text with
    | nil => rfl
    | cons c more =>
      rw [found] at stops
      rw [List.takeWhile_cons_of_neg (by simp [stops_cons.mp stops])]
  have plain : lettered ('t' :: links.flatMap Link.text) = word ('t' :: links.flatMap Link.text) := rfl
  rw [chain, read_of_isIdentChar (by decide), if_neg (by decide), if_pos (by decide), plain, word,
    run]
  rfl

/-- The numbers in a chain of fields and ranges are those that its links make, each at its place. -/
theorem ofText_chain (links : List Link) : ofText (chain links) = .ok (chainTokens 1 none links) := by
  have first : ((Cursor.start (chain links)).advance 1).FirstLine := ⟨rfl, rfl⟩
  have apart : ∀ c ∈ ((Cursor.start (chain links)).advance 1).behind.head?, c ≠ '.' := by
    intro c name
    obtain rfl : 't' = c := Option.some.inj name
    decide
  have scanned : Scanned ((Cursor.start (chain links)).advance 1) (chainTokens 1 none links) :=
    scanned_chain links rfl apart first (by simp)
  apply ofText_eq_ok_iff.mpr
  exact .skip (List.cons_ne_nil _ _) (read_chain links) scanned

/-- In `t..1.2.3` the two dots make a range, and only its number takes a point along. -/
example :
    (chainTokens 1 none [⟨.range, ['1'], by decide, by decide⟩, ⟨.field, ['2'], by decide, by decide⟩,
      ⟨.field, ['3'], by decide, by decide⟩]).map (·.raw) = [['1', '.', '2'], ['3']] := rfl

end Scan
end NumeralStyle
