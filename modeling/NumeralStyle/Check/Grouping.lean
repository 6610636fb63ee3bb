import NumeralStyle.Finding.Basic
import NumeralStyle.Literal.Basic
import NumeralStyle.Text.Oversize
import NumeralStyle.Widths

/-! The check of digit groups. Grouped digits are canonical where every group but the first has the
full width and the first has no more; `regroup` writes digits in that form. A width can be so large
that the digits filled up to it, or the width itself, cannot be written. -/
namespace NumeralStyle.Check

/-- Why digits cannot be judged or grouped. -/
inductive GroupingFault
  | noGroups
  | zeroWidth
  | oversize (reason : Oversize)
  deriving DecidableEq, Repr

/-- The fault in words. -/
def GroupingFault.message : GroupingFault → String
  | .noGroups => "list index out of range"
  | .zeroWidth => "integer modulo by zero"
  | .oversize reason => reason.message

/-- The verdict on a leading group followed by others. Groups behind the first that are not all of
one size are inconsistent, and so are groups smaller than the width; larger ones, or a first group
larger than the width, are too large. -/
def classify (width : Int) (leading : Text) (others : List Text) : Option FindingKind :=
  let oversized : FindingKind :=
    if width < leading.length then .largeGroups else .inconsistentGroups
  match others with
  | [] => some oversized
  | group :: rest =>
    if rest.all (·.length == group.length) then
      if group.length = width then
        if leading.length ≤ width then none else some oversized
      else if width < group.length then some .largeGroups
      else some .inconsistentGroups
    else some .inconsistentGroups

/-- The verdict on the groups of a literal. -/
def classifyGroups (width : Int) : List Text → Except GroupingFault (Option FindingKind)
  | [] => .error .noGroups
  | leading :: others => .ok (classify width leading others)

/-- Stretches of `width` characters each, the last as long as what is left. -/
def chunks (width : Nat) (text : Text) : List Text :=
  if text = [] ∨ width = 0 then [] else text.take width :: chunks width (text.drop width)
termination_by text.length
decreasing_by
  rename_i proceed
  have whole := List.length_pos_iff.2 (not_or.1 proceed).1
  have step := Nat.pos_of_ne_zero (not_or.1 proceed).2
  simp only [List.length_drop]
  omega

/-- Zeros in front of the digits up to a multiple of the width. -/
def padded (width : Nat) (digits : Text) : Text :=
  List.replicate ((width - digits.length % width) % width) '0' ++ digits

/-- Why digits cannot be filled up to a multiple of a width. -/
def paddingOversize? [Platform] (width : Nat) (digits : Text) : Option Oversize :=
  if digits.length % width = 0 then none
  else Oversize.ofLength? (digits.length + (width - digits.length % width))

/-- The canonical groups of digits: full ones from the right, and in front what is left over. -/
def canonicalGroups (width : Nat) (digits : Text) : List Text :=
  let first := digits.length % width
  (if first = 0 then [] else [digits.take first]) ++ chunks width (digits.drop first)

/-- Digits in canonical groups of a width, after zeros in front where the first group is to be full
as well. -/
def regroup (width : Nat) (pad : Bool) (digits : Text) : Text :=
  List.intercalate [separator] (canonicalGroups width (if pad then padded width digits else digits))

/-- Digits grouped by a width of either sign. A negative width has no full groups: what it leaves
over counts from the right end, and the digits in front of that are the only group, unless nothing
is left over, when there is none. -/
def regroupSigned [Platform] (width : Int) (pad : Bool) (digits : Text) :
    Except GroupingFault Text :=
  if width = 0 then .error .zeroWidth
  else if 0 < width then
    match if pad then paddingOversize? width.toNat digits else none with
    | some reason => .error (.oversize reason)
    | none => .ok (regroup width.toNat pad digits)
  else
    let excess := (-(digits.length : Int) % width).toNat
    .ok (if excess = 0 then [] else digits.take (digits.length - excess))

/-- The verdict on the groups of a literal. One without separators, or with a single group, gets
none. -/
def groupingKind (widths : Widths) (literal : Literal) : Option FindingKind :=
  match literal.integerGroups with
  | leading :: others =>
    if literal.hasSeparators && !others.isEmpty then
      classify (widths.of literal.radix) leading others
    else none
  | [] => none

/-- Integer parts with separators whose groups are too large or uneven. The suggestion has canonical
groups, with a full first group behind the lead of a base: without a lead, zeros in front would
give another finding. -/
def grouping (widths : Widths) (literal : Literal) : Option Advice :=
  (groupingKind widths literal).map fun kind =>
    let width := widths.of literal.radix
    let grouped := regroup width (literal.radix != .decimal) literal.digits
    { kind
      message := kind.message literal.kind.name
      suggestions :=
        [literal.radix.lead ++ grouped ++ literal.fraction ++ literal.exponentPart ++
          literal.suffixText]
      help := some ("consider grouping digits in groups of " ++ toString width) }

/-- Why the advice on the groups of a literal cannot be written: its suggestion comes before its
help. -/
def groupingOversize? [Platform] (widths : Widths) (literal : Literal) : Option Oversize :=
  (groupingKind widths literal).bind fun _ =>
    let width := widths.of literal.radix
    (if literal.radix = .decimal then none else paddingOversize? width literal.digits).or
      (Oversize.ofNumeral? width)

end NumeralStyle.Check
