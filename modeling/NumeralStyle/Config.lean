import NumeralStyle.Files.Tree
import NumeralStyle.Text.Utf8
import NumeralStyle.Toml.Parse
import NumeralStyle.Widths

/-! Configuration files. A configuration is a TOML document in a file; where there is no such file
it is empty. It gives group widths in its table `grouping` and levels in its table `lints`. -/
namespace NumeralStyle.Config

/-- The name of the configuration file of a directory. -/
def fileName : Text := "numlit.toml".toList

/-- The configuration file beside a file. -/
def beside (file : Path) : Path := file.parent.child fileName

/-- Why a configuration file cannot be read. -/
inductive Fault
  /-- The system does not open the file, although there may be one. -/
  | unopened (path : Path) (fault : SystemFault)
  | undecodable (fault : Utf8.Fault)
  | document (text : Text) (fault : Toml.Fault)
  deriving DecidableEq, Repr

/-- The fault in words. -/
def Fault.message [Toml.Wording] : Fault → String
  | .unopened path fault =>
    "[Errno " ++ toString fault.number ++ "] " ++ fault.reason ++ ": " ++
      Text.quotedString path.text
  | .undecodable fault => fault.message
  | .document text fault => fault.message text

/-- Whether an editor is told that the configuration is at fault. About a file that cannot be opened,
and a document with values nested too deeply, nothing is said. -/
def Fault.isReportable : Fault → Bool
  | .unopened .. | .document _ .tooDeep => false
  | _ => true

/-- The configuration in bytes. -/
def ofBytes [Platform] (bytes : List UInt8) : Except Fault Table :=
  match Utf8.decode bytes with
  | .error fault => .error (.undecodable fault)
  | .ok text => (Toml.parse text).mapError (.document text)

/-- The configuration at a path, where `look` says what paths lead to. -/
def load [Platform] (look : Path → Entry) (path : Path) : Except Fault Table :=
  match look path with
  | .file bytes => ofBytes bytes
  | .failed fault => if fault.isAbsence then .ok [] else .error (.unopened path fault)
  | .directory | .nul => .ok []

/-- A table within a configuration; empty where it is missing or no table. -/
def section? (config : Table) (name : String) : Table :=
  ((config.get? name.toList).map Value.entries).getD []

/-- The value that counts for a group width: that of the flag, or else that of the configuration. -/
def widthValue? (config : Table) (setting : WidthSetting) (flag : Option Value) : Option Value :=
  flag.or ((section? config "grouping").get? setting.name.toList)

/-- The group widths of a configuration, where flags do not give others. -/
def widths [Platform] (config : Table) (flag : WidthSetting → Option Value) :
    Except Widths.Fault Widths :=
  Widths.ofSettings (widthValue? config .decimal (flag .decimal))
    (widthValue? config .prefixed (flag .prefixed))

end NumeralStyle.Config
