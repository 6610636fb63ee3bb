import NumeralStyle.Editor.Address
import NumeralStyle.Editor.QuickFix

/-! A session of an editor. Whenever a document is opened or changed, its diagnostics are computed
anew, with the configuration that lies beside it at that time, and published. Where a document lies
is settled when it is opened; it may be changed under any of its addresses. A configuration at fault
gives a single error at the start of the document. Quick fixes are offered for what was published
last. -/
namespace NumeralStyle.Editor

/-- What an editor tells: that a document was opened or changed, and which text it has now. -/
structure Event where
  /-- Whether the document was opened. -/
  opening : Bool
  /-- The address under which the editor speaks of the document. -/
  address : Text
  source : Text
  /-- What paths lead to at that time. -/
  look : Path → Entry

/-- The documents of an editor, and what it was told about them. -/
structure Session where
  /-- The directory of each document, by what its addresses have in common. -/
  directories : List ((Bool × Text) × Path)
  /-- The diagnostics published last for each address that has any. -/
  published : List (Text × List Diagnostic)
  deriving Repr

namespace Session

/-- The session before any document is opened. -/
def start : Session := ⟨[], []⟩

/-- The directory of the document at an address, once it is opened. -/
def directory? (session : Session) (address : Text) : Option Path :=
  session.directories.lookup (Address.identity address)

/-- The directory of the document at an address, opened or not. -/
def directory (session : Session) (address : Text) : Path :=
  (session.directory? address).getD (Address.directory address)

/-- Open the document at an address: it lies where that address says. -/
def openAt (session : Session) (address : Text) : Session :=
  let identity := Address.identity address
  { session with
    directories :=
      (identity, Address.directory address) :: session.directories.filter (·.1 != identity) }

/-- Change the document at an address, which opens it unless it is open. -/
def changeAt (session : Session) (address : Text) : Session :=
  if (session.directory? address).isSome then session else session.openAt address

/-- The diagnostics published last for an address. -/
def diagnostics (session : Session) (address : Text) : List Diagnostic :=
  (session.published.lookup address).getD []

/-- Publish diagnostics for an address. -/
def publish (session : Session) (address : Text) (diagnostics : List Diagnostic) : Session :=
  { session with
    published := (address, diagnostics) :: session.published.filter (·.1 != address) }

/-- What is wrong with a configuration, as a diagnostic. -/
def configError (message : String) : Diagnostic :=
  .error ⟨⟨0, 0⟩, ⟨0, 0⟩⟩ ("invalid config file: " ++ message)

/-- The diagnostics of a document in a directory, where `look` says what paths lead to. -/
def diagnose [Platform] [Toml.Wording] (look : Path → Entry) (directory : Path) (source : Text) :
    Except Crash (List Diagnostic) :=
  match Config.load look (directory.child Config.fileName) with
  | .error fault =>
    if fault.isReportable then .ok [configError fault.message] else .error (.config fault)
  | .ok config =>
    match Config.widths config fun _ => none with
    | .error fault =>
      match fault.crash? with
      | none => .ok [configError fault.message]
      | some reason => .error (.oversize reason)
    | .ok widths => Diagnostic.ofSource widths source

/-- Publish the diagnostics of the document at an address. Where that crashes, nothing new is
published. -/
def update [Platform] [Toml.Wording] (session : Session) (look : Path → Entry)
    (address source : Text) : Except Crash Session :=
  (diagnose look (session.directory address) source).map (session.publish address)

/-- The session that knows the document of an event. -/
def enter (session : Session) (event : Event) : Session :=
  if event.opening then session.openAt event.address else session.changeAt event.address

/-- The session after an event, and the crash that it led to, if any. A crash leaves the document
known, and what was published as it was. -/
def step [Platform] [Toml.Wording] (session : Session) (event : Event) : Session × Option Crash :=
  let entered := session.enter event
  match entered.update event.look event.address event.source with
  | .ok next => (next, none)
  | .error crash => (entered, some crash)

/-- The session after events in order. -/
def run [Platform] [Toml.Wording] (session : Session) (events : List Event) : Session :=
  events.foldl (fun session event => (session.step event).1) session

/-- The quick fixes for the diagnostics of a document. -/
def fixes (session : Session) (address : Text) : Except PayloadFault (List QuickFix) :=
  QuickFix.ofDiagnostics address (session.diagnostics address)

end Session
end NumeralStyle.Editor
