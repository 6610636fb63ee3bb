import Mathlib.Data.List.Induction
import NumeralStyle.Editor.Session
import NumeralStyle.Proofs.Editor.Applying

/-! Sessions of an editor, event after event. An event changes what is known of its own document and
what is published for its own address, and nothing else. So after any events a document lies where the
last that opened it says (`run_directory?`), what is published for an address is the diagnosis of the
last text sent under it (`run_diagnostics`), the fixes that are offered are those for that text
(`run_fixes`), and events of other documents do not matter (`run_filter`). -/
namespace NumeralStyle.Editor

/-- Two addresses of one document. -/
abbrev SameDocument (address other : Text) : Prop :=
  Address.identity address = Address.identity other

/-- The events of the document at an address. -/
def eventsOf (events : List Event) (address : Text) : List Event :=
  events.filter fun event => SameDocument event.address address

/-- Where a document lies by the events so far: where the last says that opened it or, if none did,
the first that changed it. -/
def placeOf (events : List Event) (address : Text) : Option Path :=
  (((eventsOf events address).filter (·.opening)).getLast?.or (eventsOf events address).head?).map
    fun event => Address.directory event.address

/-- Where the document of an event lies, behind the events before it. -/
def Event.home (before : List Event) (event : Event) : Path :=
  if event.opening then Address.directory event.address
  else (placeOf before event.address).getD (Address.directory event.address)

/-- The diagnosis of the text of an event, behind the events before it. -/
def diagnosis [Platform] [Toml.Wording] (before : List Event) (event : Event) :
    Except Crash (List Diagnostic) :=
  Session.diagnose event.look (event.home before) event.source

theorem placeOf_congr {address other : Text} (same : SameDocument address other)
    (events : List Event) : placeOf events address = placeOf events other := by
  simp only [placeOf, eventsOf, SameDocument, show Address.identity address = _ from same]

theorem eventsOf_concat (events : List Event) (event : Event) (address : Text) :
    eventsOf (events ++ [event]) address =
      if SameDocument event.address address then eventsOf events address ++ [event]
      else eventsOf events address := by
  rw [eventsOf, List.filter_append, List.filter_singleton]
  by_cases same : SameDocument event.address address
  · rw [decide_eq_true same, cond_true, if_pos same, eventsOf]
  · rw [decide_eq_false same, cond_false, if_neg same, List.append_nil, eventsOf]

/-- An event settles where its document lies. -/
theorem placeOf_concat (events : List Event) (event : Event) (address : Text) :
    placeOf (events ++ [event]) address =
      if SameDocument event.address address then some (event.home events)
      else placeOf events address := by
  by_cases same : SameDocument event.address address
  · rw [if_pos same, Event.home, placeOf_congr same, placeOf, placeOf, eventsOf_concat, if_pos same,
      List.filter_append]
    cases opens : event.opening with
    | true => simp [opens]
    | false =>
      -- The last opening is what it was, and the event is the first only if there was none.
      rw [List.filter_singleton, opens, cond_false, List.append_nil, List.head?_append]
      cases ((eventsOf events address).filter (·.opening)).getLast? <;>
        cases (eventsOf events address).head? <;> simp
  · rw [if_neg same, placeOf, eventsOf_concat, if_neg same, placeOf]

namespace Session

variable {session other : Session} {event : Event} {address : Text} {events : List Event}

/-! ## One event -/

/-- A new entry for a key hides the old one and no other. -/
theorem lookup_put {α β : Type} [BEq α] [LawfulBEq α] [DecidableEq α] (entries : List (α × β))
    (key other : α) (value : β) :
    ((key, value) :: entries.filter (·.1 != key)).lookup other =
      if key = other then some value else entries.lookup other := by
  by_cases same : key = other
  · simp [same]
  have differs : (other == key) = false := beq_false_of_ne (Ne.symm same)
  rw [List.lookup_cons, differs, if_neg same]
  induction entries with
  | nil => rfl
  | cons entry entries ih =>
    by_cases old : entry.1 = key
    · rw [List.filter_cons_of_neg (by simp [old]), List.lookup_cons, old, differs]
      exact ih
    · rw [List.filter_cons_of_pos (by simp [old]), List.lookup_cons, List.lookup_cons]
      cases other == entry.1 with
      | true => rfl
      | false => exact ih

theorem directory?_congr {address other : Text} (same : SameDocument address other)
    (session : Session) : session.directory? address = session.directory? other := by
  rw [directory?, same, directory?]

theorem directory?_openAt (session : Session) (opened address : Text) :
    (session.openAt opened).directory? address =
      if SameDocument opened address then some (Address.directory opened)
      else session.directory? address :=
  lookup_put session.directories _ _ _

theorem directory?_changeAt (session : Session) (changed address : Text) :
    (session.changeAt changed).directory? address =
      if SameDocument changed address then some (session.directory changed)
      else session.directory? address := by
  unfold changeAt directory
  cases known : session.directory? changed with
  | none => simpa using directory?_openAt session changed address
  | some place =>
    by_cases same : SameDocument changed address
    · simp [← directory?_congr same, known]
    · simp [same]

/-- An event settles where its document lies, and leaves every other document where it was. -/
theorem directory?_enter (session : Session) (event : Event) (address : Text) :
    (session.enter event).directory? address =
      if SameDocument event.address address then
        some (if event.opening then Address.directory event.address
          else session.directory event.address)
      else session.directory? address := by
  unfold enter
  split
  · exact directory?_openAt session event.address address
  · exact directory?_changeAt session event.address address

theorem directory_enter (session : Session) (event : Event) :
    (session.enter event).directory event.address =
      if event.opening then Address.directory event.address else session.directory event.address := by
  rw [directory, directory?_enter, if_pos rfl, Option.getD_some]

theorem published_enter (session : Session) (event : Event) :
    (session.enter event).published = session.published := by
  unfold enter changeAt openAt
  split_ifs <;> rfl

/-- Two sessions that agree on the document at an address, under all of its addresses. -/
structure Agrees (address : Text) (session other : Session) : Prop where
  directory? : session.directory? address = other.directory? address
  diagnostics : ∀ name, SameDocument name address →
    session.diagnostics name = other.diagnostics name

theorem Agrees.directory (agrees : Agrees address session other) {name : Text}
    (same : SameDocument name address) : session.directory name = other.directory name := by
  rw [Session.directory, Session.directory, directory?_congr same, directory?_congr same,
    agrees.directory?]

section
variable [Platform] [Toml.Wording]

/-- The diagnosis of the text of an event, once its document is known. -/
def told (session : Session) (event : Event) : Except Crash (List Diagnostic) :=
  diagnose event.look ((session.enter event).directory event.address) event.source

theorem step_of_ok {found : List Diagnostic} (made : session.told event = .ok found) :
    session.step event = ((session.enter event).publish event.address found, none) := by
  rw [told] at made
  simp only [step, update, made, Except.map]

theorem step_of_error {crash : Crash} (crashed : session.told event = .error crash) :
    session.step event = (session.enter event, some crash) := by
  rw [told] at crashed
  simp only [step, update, crashed, Except.map]

theorem directory?_step (session : Session) (event : Event) (address : Text) :
    (session.step event).1.directory? address = (session.enter event).directory? address := by
  cases made : session.told event with
  | ok found =>
    rw [step_of_ok made]
    rfl
  | error crash => rw [step_of_error made]

/-- An event publishes the diagnosis of its text for its address, unless that crashes. For other
addresses it publishes nothing. -/
theorem diagnostics_step (session : Session) (event : Event) (address : Text) :
    (session.step event).1.diagnostics address =
      if event.address = address then
        match session.told event with
        | .ok found => found
        | .error _ => session.diagnostics address
      else session.diagnostics address := by
  cases made : session.told event with
  | ok found =>
    rw [step_of_ok made]
    simp only [diagnostics, publish, published_enter, lookup_put]
    split <;> rfl
  | error crash =>
    rw [step_of_error made]
    simp only [diagnostics, published_enter, ite_self]

/-! ## All events -/

theorem run_append (session : Session) (events more : List Event) :
    session.run (events ++ more) = (session.run events).run more :=
  List.foldl_append ..

theorem run_concat (session : Session) (events : List Event) (event : Event) :
    session.run (events ++ [event]) = ((session.run events).step event).1 :=
  run_append session events [event]

/-- Events of other addresses publish nothing for an address. -/
theorem diagnostics_run_of_ne (others : ∀ event ∈ events, event.address ≠ address) :
    (session.run events).diagnostics address = session.diagnostics address := by
  induction events generalizing session with
  | nil => rfl
  | cons event events ih =>
    obtain ⟨other, others⟩ := List.forall_mem_cons.mp others
    change ((session.step event).1.run events).diagnostics address = _
    rw [ih others, diagnostics_step, if_neg other]

/-- After events a document lies where the last says that opened it or, if none did, the first that
changed it. -/
theorem run_directory? (events : List Event) (address : Text) :
    (start.run events).directory? address = placeOf events address := by
  induction events using List.reverseRecOn generalizing address with
  | nil => rfl
  | append_singleton events event ih =>
    rw [run_concat, directory?_step, directory?_enter, placeOf_concat, ih, directory, ih]
    rfl

theorem told_run (events : List Event) (event : Event) :
    (start.run events).told event = diagnosis events event := by
  rw [told, directory_enter, directory, run_directory?, diagnosis, Event.home]

/-- What is published for an address is the diagnosis of the last text that was sent under it. Where
that crashes, it is what was published before. -/
theorem run_diagnostics (before after : List Event) (event : Event)
    (last : ∀ later ∈ after, later.address ≠ event.address) :
    (start.run (before ++ event :: after)).diagnostics event.address =
      match diagnosis before event with
      | .ok found => found
      | .error _ => (start.run before).diagnostics event.address := by
  have split : before ++ event :: after = (before ++ [event]) ++ after := by simp
  rw [split, run_append, diagnostics_run_of_ne last, run_concat, diagnostics_step, if_pos rfl,
    told_run]

/-- An event of the document keeps the sessions in agreement. -/
theorem Agrees.step (agrees : Agrees address session other)
    (same : SameDocument event.address address) :
    Agrees address (session.step event).1 (other.step event).1 := by
  refine ⟨?_, fun name known => ?_⟩
  · rw [directory?_step, directory?_step, directory?_enter, directory?_enter, if_pos same,
      if_pos same, agrees.directory same]
  · have heard : session.told event = other.told event := by
      rw [told, told, directory_enter, directory_enter, agrees.directory same]
    rw [diagnostics_step, diagnostics_step, heard, agrees.diagnostics name known]

/-- An event of another document does so where only one of the sessions has it. -/
theorem Agrees.step_other (agrees : Agrees address session other)
    (differs : ¬ SameDocument event.address address) :
    Agrees address session (other.step event).1 := by
  refine ⟨?_, fun name known => ?_⟩
  · rw [directory?_step, directory?_enter, if_neg differs, agrees.directory?]
  · have elsewhere : event.address ≠ name := by
      rintro rfl
      exact differs known
    rw [diagnostics_step, if_neg elsewhere, agrees.diagnostics name known]

theorem Agrees.run (agrees : Agrees address session other) (events : List Event) :
    Agrees address (session.run (eventsOf events address)) (other.run events) := by
  induction events generalizing session other with
  | nil => exact agrees
  | cons event events ih =>
    by_cases same : SameDocument event.address address
    · rw [eventsOf, List.filter_cons_of_pos (by simpa using same)]
      exact ih (agrees.step same)
    · rw [eventsOf, List.filter_cons_of_neg (by simpa using same)]
      exact ih (agrees.step_other same)

/-- Events of other documents change neither where a document lies nor what is published for it. -/
theorem run_filter (events : List Event) (address : Text) :
    Agrees address (start.run (eventsOf events address)) (start.run events) :=
  Agrees.run ⟨rfl, fun _ _ => rfl⟩ events

/-- The quick fixes that are offered for the last text sent under an address are one for each suggestion
of each finding on it, where its configuration gives group widths and the text has an analysis. -/
theorem run_fixes {before after : List Event} {config : Table} {widths : Widths}
    {reports : List Report} (last : ∀ later ∈ after, later.address ≠ event.address)
    (loaded : Config.load event.look ((event.home before).child Config.fileName) = .ok config)
    (sized : Config.widths config (fun _ => none) = .ok widths)
    (analyzed : analyze widths event.source = .ok reports) :
    (start.run (before ++ event :: after)).fixes event.address =
      .ok (QuickFix.offered event.address reports) := by
  have found : diagnosis before event = .ok ((findingsOf reports).map .ofFinding) := by
    rw [diagnosis, diagnose, loaded]
    simp only [sized, Diagnostic.ofSource, analyzed]
  rw [fixes, run_diagnostics before after event last, found]
  exact QuickFix.ofDiagnostics_ofFinding event.address (findingsOf reports)

end

end Session
end NumeralStyle.Editor
