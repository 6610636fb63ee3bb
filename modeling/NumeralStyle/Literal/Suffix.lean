import NumeralStyle.Literal.Radix

/-! Type suffixes. A literal may end in the name of a machine type, with or without a separator
before it. The two floating point names occur on decimal literals only: after any other lead they
are digits or no suffix at all. -/
namespace NumeralStyle

/-- The character that separates groups of digits, and a number from its suffix. -/
def separator : Char := '_'

/-- The machine types that a literal can name. -/
inductive Suffix
  | i8 | i16 | i32 | i64 | i128 | isize
  | u8 | u16 | u32 | u64 | u128 | usize
  | f32 | f64
  deriving DecidableEq, Repr

namespace Suffix

/-- The suffix as it is written. -/
def text : Suffix → Text
  | .i8 => ['i', '8']
  | .i16 => ['i', '1', '6']
  | .i32 => ['i', '3', '2']
  | .i64 => ['i', '6', '4']
  | .i128 => ['i', '1', '2', '8']
  | .isize => ['i', 's', 'i', 'z', 'e']
  | .u8 => ['u', '8']
  | .u16 => ['u', '1', '6']
  | .u32 => ['u', '3', '2']
  | .u64 => ['u', '6', '4']
  | .u128 => ['u', '1', '2', '8']
  | .usize => ['u', 's', 'i', 'z', 'e']
  | .f32 => ['f', '3', '2']
  | .f64 => ['f', '6', '4']

/-- Whether the suffix names a floating point type. -/
def isFloat : Suffix → Bool
  | .f32 | .f64 => true
  | _ => false

/-- Every suffix, longer ones before shorter ones. -/
def longestFirst : List Suffix :=
  [.isize, .usize, .i128, .u128, .i16, .i32, .i64, .u16, .u32, .u64, .f32, .f64, .i8, .u8]

/-- The longest suffix that ends the body of a literal and leaves something in front of it. -/
def find? (radix : Radix) (body : Text) : Option Suffix :=
  longestFirst.find? fun suffix =>
    (radix == .decimal || !suffix.isFloat) && suffix.text.isSuffixOf body &&
      suffix.text.length < body.length

end Suffix

/-- A suffix as a literal has it. -/
structure WrittenSuffix where
  suffix : Suffix
  /-- Whether a separator stands before it. -/
  separated : Bool
  deriving DecidableEq, Repr

/-- The suffix with the one separator that belongs to it, if any. -/
def WrittenSuffix.text (written : WrittenSuffix) : Text :=
  (if written.separated then [separator] else []) ++ written.suffix.text

end NumeralStyle
