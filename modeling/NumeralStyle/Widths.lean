import NumeralStyle.Literal.Radix
import NumeralStyle.Value

/-! The group widths of a style: how many digits a full group has in decimal literals, and how many
in all others. Both are positive; a setting that is anything but a positive integer is refused. -/
namespace NumeralStyle

/-- The settings that give a group width. -/
inductive WidthSetting
  | decimal
  | prefixed
  deriving DecidableEq, Repr

namespace WidthSetting

/-- The name of the setting. -/
def name : WidthSetting → String
  | .decimal => "decimal_group_size"
  | .prefixed => "radix_group_size"

/-- The width where none is set. -/
def default : WidthSetting → Nat
  | .decimal => 3
  | .prefixed => 4

end WidthSetting

/-- The widths of full groups. -/
structure Widths where
  /-- The digits of a full group in decimal literals. -/
  decimal : Nat
  /-- The digits of a full group in literals of any other base. -/
  prefixed : Nat
  decimal_pos : 0 < decimal := by decide
  prefixed_pos : 0 < prefixed := by decide

namespace Widths

/-- The widths where none is set. -/
def default : Widths where
  decimal := WidthSetting.decimal.default
  prefixed := WidthSetting.prefixed.default

/-- The width for literals of a base. -/
def of (widths : Widths) (radix : Radix) : Nat :=
  if radix = .decimal then widths.decimal else widths.prefixed

/-- Why a setting gives no width. -/
inductive Fault
  /-- The value is no positive integer. -/
  | notPositive (setting : WidthSetting) (value : Value)
  /-- The value is no positive integer, and cannot be shown either. -/
  | oversize (reason : Oversize)

namespace Fault

/-- The fault of a setting whose value is no positive integer. -/
def ofValue [Platform] (setting : WidthSetting) (value : Value) : Fault :=
  match value.oversize? Platform.widthDepth with
  | none => .notPositive setting value
  | some reason => .oversize reason

/-- The fault in words. -/
def message : Fault → String
  | .notPositive setting value =>
    setting.name ++ " must be a positive integer, got " ++ String.ofList value.shown
  | .oversize reason => reason.message

/-- What is too much even for a refusal: a value that holds values too deeply. -/
def crash? : Fault → Option Oversize
  | .oversize .nesting => some .nesting
  | _ => none

end Fault

/-- The positive integer that a value is. -/
def positive? : Value → Option { n : Nat // 0 < n }
  | .integer n => if h : 0 < n.toNat then some ⟨n.toNat, h⟩ else none
  | _ => none

/-- The width that a setting gives, or the default where it is not set. -/
def read [Platform] (setting : WidthSetting) (given : Option Value) :
    Except Fault { n : Nat // 0 < n } :=
  match given with
  | none => .ok ⟨setting.default, by cases setting <;> decide⟩
  | some value =>
    match positive? value with
    | none => .error (.ofValue setting value)
    | some width => .ok width

/-- The widths that the two settings give. The decimal one is looked at first. -/
def ofSettings [Platform] (decimal prefixed : Option Value) : Except Fault Widths := do
  let decimal ← read .decimal decimal
  let prefixed ← read .prefixed prefixed
  return ⟨decimal.1, prefixed.1, decimal.2, prefixed.2⟩

end Widths
end NumeralStyle
