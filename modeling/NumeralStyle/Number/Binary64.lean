import NumeralStyle.Text

/-! Floating point numbers of 64 bits, held exactly as a mantissa times a power of two. A decimal is
rounded to the nearest of them, a tie to the even mantissa. A number is written with the fewest
digits that read back to it, and of those with the nearest, a tie to the even last digit. All
arithmetic is on natural numbers. -/
namespace NumeralStyle

/-- A power of two. -/
def twoTo (exponent : Nat) : Nat := Nat.pow 2 exponent

/-- A power of ten. -/
def tenTo (exponent : Nat) : Nat := Nat.pow 10 exponent

/-- A floating point number of 64 bits. A finite one is its mantissa times two to its exponent; the
mantissa has at most 53 bits, and fewer only where the exponent is the least one. -/
inductive Binary64
  | nan
  | infinite (negative : Bool)
  | finite (negative : Bool) (mantissa : Nat) (exponent : Int)
  deriving DecidableEq, Repr

namespace Binary64

/-- Whether a number is zero, of either sign. -/
def isZero : Binary64 → Bool
  | .finite _ mantissa _ => mantissa == 0
  | .nan | .infinite _ => false

/-- The least exponent of a finite number. -/
def leastExponent : Int := -1074

/-- The greatest exponent of a finite number. -/
def greatestExponent : Int := 971

/-- A quotient rounded to the nearest natural number, a tie to the even one. -/
def roundDiv (numerator denominator : Nat) : Nat :=
  let quotient := numerator / denominator
  let twice := 2 * (numerator % denominator)
  if twice > denominator || (twice == denominator && quotient % 2 == 1) then quotient + 1
  else quotient

/-- A fraction divided by a power of two, as a fraction. -/
def scale (numerator denominator : Nat) (exponent : Int) : Nat × Nat :=
  if 0 ≤ exponent then (numerator, denominator * twoTo exponent.toNat)
  else (numerator * twoTo (-exponent).toNat, denominator)

/-- The number nearest to a positive fraction, infinite where the fraction is too large. -/
def ofRatio (negative : Bool) (numerator denominator : Nat) : Binary64 :=
  let guess : Int := (Nat.log2 numerator : Int) - Nat.log2 denominator - 53
  let (top, bottom) := scale numerator denominator guess
  let exponent := max leastExponent (if top / bottom < twoTo 53 then guess else guess + 1)
  let (top, bottom) := scale numerator denominator exponent
  let mantissa := roundDiv top bottom
  let (mantissa, exponent) :=
    if mantissa = twoTo 53 then (twoTo 52, exponent + 1) else (mantissa, exponent)
  if greatestExponent < exponent then .infinite negative else .finite negative mantissa exponent

/-- The number nearest to a decimal, given as a whole number times a power of ten. A decimal beyond
`10 ^ 310` is infinite and one below `10 ^ -330` is zero whatever its digits, so no power of ten
larger than needed is ever computed. -/
def ofDecimal (negative : Bool) (digits : Nat) (exponent : Int) : Binary64 :=
  let magnitude : Int := (Text.ofInt digits).length + exponent
  if digits = 0 || magnitude < -330 then .finite negative 0 leastExponent
  else if 310 < magnitude then .infinite negative
  else if 0 ≤ exponent then ofRatio negative (digits * tenTo exponent.toNat) 1
  else ofRatio negative digits (tenTo (-exponent).toNat)

/-- How `a * 10 ^ i` compares with `b * 2 ^ j`. -/
def compareScaled (a : Nat) (i : Int) (b : Nat) (j : Int) : Ordering :=
  compare (a * tenTo i.toNat * twoTo (-j).toNat) (b * twoTo j.toNat * tenTo (-i).toNat)

/-- Whether `a * 10 ^ i` rounds to the positive number with the given mantissa and exponent. The
reals that round to it lie between the midpoints to its two neighbours; the lower neighbour is at
half the distance where the mantissa is the least one, and the midpoints belong to it where the
mantissa is even. -/
def readsBack (mantissa : Nat) (exponent : Int) (a : Nat) (i : Int) : Bool :=
  let below := if mantissa = twoTo 52 && leastExponent < exponent then 1 else 2
  let low := compareScaled a i (4 * mantissa - below) (exponent - 2)
  let high := compareScaled a i (4 * mantissa + 2) (exponent - 2)
  (low == .gt && high == .lt) || (mantissa % 2 == 0 && (low == .eq || high == .eq))

/-- The exponent of the first digit of a positive number. No such number is below `10 ^ -400`. -/
def firstPlace (mantissa : Nat) (exponent : Int) : Int :=
  let (top, bottom) := scale (mantissa * tenTo 400) 1 (-exponent)
  ((Text.ofInt (top / bottom : Nat)).length : Int) - 401

/-- The decimal on the grid of the multiples of `10 ^ place` that reads back to a positive number,
if there is one: of the two grid points around the number the nearer one, the even one where they
are equally near, or the only one. -/
def onGrid? (mantissa : Nat) (exponent : Int) (place : Int) : Option Nat :=
  let (top, bottom) := scale (mantissa * tenTo (-place).toNat) (tenTo place.toNat) (-exponent)
  let floor := top / bottom
  let reads := readsBack mantissa exponent
  match reads floor place, reads (floor + 1) place with
  | true, true =>
    match compareScaled (2 * floor + 1) place (2 * mantissa) exponent with
    | .lt => some (floor + 1)
    | .eq => some (if floor % 2 = 0 then floor else floor + 1)
    | .gt => some floor
  | true, false => some floor
  | false, true => some (floor + 1)
  | false, false => none

/-- The digits of the shortest decimal that reads back to a positive number, and the place of its
point counted from its first digit. Seventeen digits are always enough. -/
def shortest (mantissa : Nat) (exponent : Int) : Text × Int :=
  let first := firstPlace mantissa exponent
  let found := (List.range 17).findSome? fun (count : Nat) =>
    let place := first - (count : Int)
    (onGrid? mantissa exponent place).map fun (decimal : Nat) => (Text.ofInt decimal, place)
  let (digits, place) := found.getD ([], 0)
  (Text.trimEnd '0' digits, digits.length + place)

/-- The decisions of a decimal format that do not follow from the number. -/
structure Layout where
  /-- The least place of the point that is written without an exponent. -/
  leastPoint : Int
  /-- The greatest place of the point that is written without an exponent. -/
  greatestPoint : Int
  /-- The least number of digits of an exponent. -/
  exponentDigits : Nat

/-- Numbers from `0.0001` up to `10 ^ 16` are written without an exponent, and an exponent has two
digits at least. -/
def layout : Layout := ⟨-3, 16, 2⟩

/-- Digits with their point at a place, or with an exponent. -/
def place (layout : Layout) (digits : Text) (point : Int) : Text :=
  if layout.leastPoint ≤ point ∧ point ≤ layout.greatestPoint then
    if point ≤ 0 then ['0', '.'] ++ List.replicate (-point).toNat '0' ++ digits
    else if digits.length ≤ point then
      digits ++ List.replicate (point.toNat - digits.length) '0' ++ ['.', '0']
    else digits.take point.toNat ++ ['.'] ++ digits.drop point.toNat
  else
    let exponent := point - 1
    let magnitude := Text.ofInt exponent.natAbs
    let fraction := if digits.length ≤ 1 then [] else '.' :: digits.drop 1
    digits.take 1 ++ fraction ++ ['e', if exponent < 0 then '-' else '+'] ++
      List.replicate (layout.exponentDigits - magnitude.length) '0' ++ magnitude

/-- A number in decimal. -/
def text : Binary64 → Text
  | .nan => ['n', 'a', 'n']
  | .infinite negative => (if negative then ['-'] else []) ++ ['i', 'n', 'f']
  | .finite negative mantissa exponent =>
    (if negative then ['-'] else []) ++
      if mantissa = 0 then ['0', '.', '0']
      else
        let (digits, point) := shortest mantissa exponent
        place layout digits point

end Binary64
end NumeralStyle
