import NumeralStyle.CommandLine.Word
import NumeralStyle.Text.Integer

/-! The arguments of a command line. Words are first put together into directives, each with all the
words that belong to it, and the directives take effect in order. The files are the operands of the
first unbroken run; every word that has no place is left over. Faults of single words come first,
then those of directives in order, then a missing file, then the words left over. -/
namespace NumeralStyle.CommandLine

/-- What flags say. -/
structure Choices where
  /-- The configuration file. -/
  config : Option Text
  /-- The group width of decimal literals. -/
  decimalWidth : Option Value
  /-- The group width of all other literals. -/
  prefixedWidth : Option Value
  /-- The names of kinds that get a level, in order; a flag may have none. -/
  lints : List (Level × Option Text)
  debug : Bool
  deriving Repr

/-- The arguments of a command line. -/
structure Arguments extends Choices where
  files : List Text
  files_ne_nil : files ≠ []

namespace Choices

/-- The choices without any flag. -/
def none : Choices := ⟨.none, .none, .none, [], false⟩

/-- The names of the kinds that get a level. -/
def named (choices : Choices) (level : Level) : List (Option Text) :=
  (choices.lints.filter (·.1 == level)).map (·.2)

/-- The group width that a flag gives. -/
def width? (choices : Choices) : WidthSetting → Option Value
  | .decimal => choices.decimalWidth
  | .prefixed => choices.prefixedWidth

/-- The choices with a group width set. -/
def setWidth (choices : Choices) (setting : WidthSetting) (width : Value) : Choices :=
  match setting with
  | .decimal => { choices with decimalWidth := some width }
  | .prefixed => { choices with prefixedWidth := some width }

end Choices

/-- What words of a command line say together. -/
inductive Directive
  | operand (text : Text)
  | terminator
  | unknown (text : Text)
  /-- A flag without a value. -/
  | plain (flag : Flag)
  /-- A flag that takes a value, and the value unless it is dropped. -/
  | valued (flag : Flag) (value : Option Text)
  | fault (misuse : Misuse)
  deriving DecidableEq, Repr

namespace Directive

/-- What is wrong with text behind the letter of a flag that takes no value, if anything. Each
letter of it may be that of a flag; the first flag that takes a value has what is left, or the next
word. This is how argparse goes on with letters before version 3.11.8; a later one need not. -/
def fault? (flag : Flag) (attached : Text) (next : List Word) : Option Misuse :=
  match attached with
  | [] => none
  | letter :: rest =>
    match Flag.ofLetter? letter with
    | none => some (.valueIgnored flag attached)
    | some inner =>
      match inner.takesValue, rest, next with
      | true, [], .operand _ :: _ => none
      | true, [], _ => some (.valueMissing inner)
      | true, _ :: _, _ => none
      | false, rest, next => fault? inner rest next

/-- The directive of a flag without a value, where it is named by its letter. The only letter that
takes no value asks for help, so all that matters of more flags behind it is whether they are at
fault. As with `fault?`, this is argparse before version 3.11.8, also for an equals sign behind the
letter, which is dropped before the letters behind it are read. -/
def ofPlain (flag : Flag) (attached : Option Text) (next : List Word) : Directive :=
  match attached with
  | none => .plain flag
  | some [] => .fault (.valueIgnored flag [])
  | some text =>
    match fault? flag text next with
    | some misuse => .fault misuse
    | none => .plain flag

/-- The directive of a flag with a value in its own word. To argparse before version 3.11.8 two hyphens
never are a value, and it drops them; later versions keep those in the word of the flag. -/
def ofOwnValue (flag : Flag) (value : Text) : Directive :=
  .valued flag (if value = ['-', '-'] then none else some value)

/-- The directives of words. A flag that takes a value and has none in its word takes the next word,
which has to be an operand. -/
def ofWords : List Word → List Directive
  | [] => []
  | .operand text :: rest => .operand text :: ofWords rest
  | .terminator :: rest => .terminator :: ofWords rest
  | .unknown text :: rest => .unknown text :: ofWords rest
  | .long flag value :: rest =>
    match flag.takesValue, value, rest with
    | true, some value, rest => ofOwnValue flag value :: ofWords rest
    | true, none, .operand value :: rest => .valued flag (some value) :: ofWords rest
    | true, none, rest => .fault (.valueMissing flag) :: ofWords rest
    | false, some value, rest => .fault (.valueIgnored flag value) :: ofWords rest
    | false, none, rest => .plain flag :: ofWords rest
  | .short flag attached :: rest =>
    match flag.takesValue, attached, rest with
    | true, some value, rest => ofOwnValue flag value :: ofWords rest
    | true, none, .operand value :: rest => .valued flag (some value) :: ofWords rest
    | true, none, rest => .fault (.valueMissing flag) :: ofWords rest
    | false, attached, rest => ofPlain flag attached rest :: ofWords rest

end Directive

/-- Why a command line gives no arguments. -/
inductive Exit
  /-- It asks for help. -/
  | help
  | misuse (misuse : Misuse)
  deriving DecidableEq, Repr

/-- The directives read so far. -/
structure Reading where
  choices : Choices
  files : List Text
  /-- Whether a flag has ended the run of operands that are files. -/
  closed : Bool
  /-- The words left over. -/
  extras : List Text
  deriving Repr

namespace Reading

/-- Nothing read. -/
def start : Reading := ⟨.none, [], false, []⟩

/-- End the run of files, if it has begun. -/
def close (reading : Reading) : Reading :=
  { reading with closed := reading.closed || !reading.files.isEmpty }

/-- Leave a word over. -/
def leave (reading : Reading) (word : Text) : Reading :=
  { reading with extras := reading.extras ++ [word] }

/-- The value of a width flag. Where the text is dropped it is the empty list, which is no width. -/
def widthOf (flag : Flag) : Option Text → Except Exit Value
  | none => .ok (.list [])
  | some text =>
    match Text.integer? text with
    | some width => .ok (.integer width)
    | none => .error (.misuse (.notInteger flag text))

/-- Take the value of a flag. -/
def takeValue (choices : Choices) (flag : Flag) (value : Option Text) : Except Exit Choices :=
  match flag with
  | .config => .ok { choices with config := value }
  | .level level => .ok { choices with lints := choices.lints ++ [(level, value)] }
  | .width setting => (widthOf flag value).map (choices.setWidth setting)
  | .help | .debug => .ok choices

/-- Take one directive. -/
def take (reading : Reading) : Directive → Except Exit Reading
  | .operand text =>
    .ok (if reading.closed then reading.leave text
      else { reading with files := reading.files ++ [text] })
  | .terminator => .ok (if reading.closed then reading.leave ['-', '-'] else reading)
  | .unknown text => .ok (reading.close.leave text)
  | .fault misuse => .error (.misuse misuse)
  | .plain .help => .error .help
  | .plain .debug => .ok { reading.close with choices := { reading.choices with debug := true } }
  | .plain _ => .ok reading.close
  | .valued flag value => do
    return { reading.close with choices := ← takeValue reading.choices flag value }

/-- The arguments when all is read. -/
def finish (reading : Reading) : Except Exit Arguments :=
  if named : reading.files ≠ [] then
    if reading.extras = [] then
      .ok { reading.choices with files := reading.files, files_ne_nil := named }
    else .error (.misuse (.unrecognized reading.extras))
  else .error (.misuse .fileMissing)

end Reading

/-- The arguments that a command line gives. -/
def Arguments.ofTexts (texts : List Text) : Except Exit Arguments := do
  let words ← (Word.ofTexts texts).mapError .misuse
  let reading ← (Directive.ofWords words).foldlM Reading.take .start
  reading.finish

end NumeralStyle.CommandLine
