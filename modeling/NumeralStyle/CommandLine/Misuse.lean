import NumeralStyle.CommandLine.Flag

/-! What can be wrong with a command line. -/
namespace NumeralStyle.CommandLine

/-- Why a command line has no meaning. -/
inductive Misuse
  /-- A word could be short for several flags. -/
  | ambiguous (word : Text) (flags : List Flag)
  /-- A flag that takes a value has none. -/
  | valueMissing (flag : Flag)
  /-- A flag that takes no value has one. -/
  | valueIgnored (flag : Flag) (value : Text)
  /-- The value of a flag is no integer. -/
  | notInteger (flag : Flag) (value : Text)
  /-- No file is named. -/
  | fileMissing
  /-- Words that are left over. -/
  | unrecognized (words : List Text)
  deriving DecidableEq, Repr

namespace Misuse

/-- The fault of a flag in words. -/
def ofFlag (flag : Flag) (fault : String) : String := "argument " ++ flag.heading ++ ": " ++ fault

/-- The fault in words. -/
def message : Misuse → String
  | .ambiguous word flags =>
    "ambiguous option: " ++ String.ofList word ++ " could match " ++
      String.intercalate ", " (flags.map Flag.spelling)
  | .valueMissing flag => ofFlag flag "expected one argument"
  | .valueIgnored flag value =>
    ofFlag flag ("ignored explicit argument " ++ Text.quotedString value)
  | .notInteger flag value => ofFlag flag ("invalid int value: " ++ Text.quotedString value)
  | .fileMissing => "the following arguments are required: FILE"
  | .unrecognized words =>
    "unrecognized arguments: " ++ String.ofList (List.intercalate [' '] words)

end Misuse
end NumeralStyle.CommandLine
