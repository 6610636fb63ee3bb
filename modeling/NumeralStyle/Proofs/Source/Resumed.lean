import Mathlib.Data.Nat.Init
import NumeralStyle.Proofs.Source.Stopped

/-! Scans that are taken up again. Every step moves a scan on, also one at which it stops, unless that
is a NUL character: there it stands still. So a run takes no more steps than there are characters
ahead, and a scan that is run again and again finds more tokens behind those that it has, until it
comes to the end of the text or to a NUL character and stays there (`Scan.Reached.resumes`). -/
namespace NumeralStyle

/-- The stop at a NUL character. -/
def Stop.AtNul (stop : Stop) : Prop := ∃ position, stop = .fault ⟨.nul, position⟩

theorem Stop.atNul_fault_iff {fault : ScanFault} {position : Position} :
    Stop.AtNul (.fault ⟨fault, position⟩) ↔ fault = .nul := by
  simp [AtNul]

theorem Stop.not_atNul_cutEscape : ¬ Stop.AtNul .cutEscape := by
  simp [AtNul]

namespace Scan

variable {scan next last : Scan} {stop : Stop} {source : Text}

/-! ## One step -/

/-- A step that goes on moves the scan, and takes along one token at most. -/
theorem step_goes_on (more : scan.isDone = false) (stepped : scan.step = (next, none)) :
    scan.cursor.offset < next.cursor.offset ∧
      (next.tokens = scan.tokens ∨ ∃ token, next.tokens = scan.tokens ++ [token]) := by
  have filled : scan.cursor.ahead ≠ [] := by simpa [isDone] using more
  have advances := @Lexeme.read_advances scan.cursor.isAfterPoint scan.cursor.ahead
  change scan.lexeme.Advances at advances
  cases found : scan.lexeme with
  | skip length =>
    rw [found] at advances
    rw [step_skip found] at stepped
    cases stepped
    exact ⟨Cursor.offset_lt_advance filled advances, .inl rfl⟩
  | number length =>
    rw [found] at advances
    simp only [step, found, Prod.mk.injEq, and_true] at stepped
    subst stepped
    exact ⟨Cursor.offset_lt_advance filled advances, .inr ⟨_, List.reverse_cons⟩⟩
  | broken fault start length => simp [step, found] at stepped
  | cutEscape length => simp [step, found] at stepped

/-- A step that stops finds no token. It moves the scan too, unless it stops at a NUL character. -/
theorem step_stops (more : scan.isDone = false) (stopped : scan.step = (next, some stop)) :
    next.tokens = scan.tokens ∧ scan.cursor.offset ≤ next.cursor.offset ∧
      (next.cursor.offset = scan.cursor.offset ↔ stop.AtNul) := by
  have filled : scan.cursor.ahead ≠ [] := by simpa [isDone] using more
  have moves {length : Nat} (positive : 0 < length) :
      (scan.cursor.advance length).offset ≠ scan.cursor.offset :=
    Nat.ne_of_gt (Cursor.offset_lt_advance filled positive)
  cases found : scan.lexeme with
  | skip length => simp [step, found] at stopped
  | number length => simp [step, found] at stopped
  | broken fault start length =>
    simp only [step, found, Prod.mk.injEq, Option.some.injEq] at stopped
    obtain ⟨rfl, rfl⟩ := stopped
    refine ⟨rfl, Cursor.offset_le_advance _ _, ?_⟩
    rw [Stop.atNul_fault_iff, ← (Lexeme.brokenIn_of_read found).searched]
    constructor
    · exact fun still => Nat.eq_zero_of_not_pos fun positive => moves positive still
    · rintro rfl
      rfl
  | cutEscape length =>
    simp only [step, found, Prod.mk.injEq, Option.some.injEq] at stopped
    obtain ⟨rfl, rfl⟩ := stopped
    refine ⟨rfl, Cursor.offset_le_advance _ _, ?_⟩
    obtain ⟨-, rfl⟩ := Lexeme.read_eq_cutEscape_iff.mp found
    simp only [Stop.not_atNul_cutEscape, iff_false]
    exact moves (List.length_pos_iff.mpr filled)

/-- At a NUL character a scan stands still. -/
theorem eq_of_atNul (stopped : scan.step = (next, some stop)) (nul : stop.AtNul) : next = scan := by
  obtain ⟨position, rfl⟩ := nul
  cases found : scan.lexeme with
  | skip length => simp [step, found] at stopped
  | number length => simp [step, found] at stopped
  | broken fault start length =>
    simp only [step, found, Prod.mk.injEq, Option.some.injEq, Stop.fault.injEq,
      ScanError.mk.injEq] at stopped
    obtain ⟨rfl, rfl, -⟩ := stopped
    obtain rfl := (Lexeme.brokenIn_of_read found).searched.mpr rfl
    rfl
  | cutEscape length => simp [step, found] at stopped

theorem tokens_prefix_step (more : scan.isDone = false) : scan.tokens <+: scan.step.1.tokens := by
  rcases stepped : scan.step with ⟨next, _ | stop⟩
  · obtain ⟨-, same | ⟨token, grown⟩⟩ := step_goes_on more stepped
    · exact ⟨[], by rw [same, List.append_nil]⟩
    · exact ⟨[token], grown.symm⟩
  · exact ⟨[], by rw [(step_stops more stepped).1, List.append_nil]⟩

/-! ## A run -/

/-- The run of a scan, unless it takes more than a number of steps. -/
def runWithin : (count : Nat) → Scan → Option (Scan × Option Stop)
  | 0, scan => if scan.isDone then some (scan, none) else none
  | count + 1, scan =>
    if scan.isDone then some (scan, none)
    else
      match scan.step with
      | (next, none) => runWithin count next
      | (next, some stop) => some (next, some stop)

/-- A run takes no more steps than there are characters ahead. -/
theorem runWithin_eq_run {count : Nat} (short : scan.cursor.ahead.length ≤ count) :
    scan.runWithin count = some scan.run := by
  induction count generalizing scan with
  | zero =>
    have done : scan.isDone = true := isDone_iff.mpr (List.length_eq_zero_iff.mp (by omega))
    rw [runWithin, if_pos done, run_of_isDone done]
  | succ count ih =>
    cases more : scan.isDone with
    | true => rw [runWithin, if_pos more, run_of_isDone more]
    | false =>
      rcases stepped : scan.step with ⟨next, _ | stop⟩
      · have shorter := step_shortens more stepped
        simp only [runWithin, more, stepped, Bool.false_eq_true, if_false]
        rw [run_of_step more stepped]
        exact ih (by omega)
      · simp only [runWithin, more, stepped, Bool.false_eq_true, if_false]
        rw [run_of_stop more stepped]

theorem run_eq_of_runWithin {count : Nat} {result : Scan × Option Stop}
    (short : scan.cursor.ahead.length ≤ count) (ran : scan.runWithin count = some result) :
    scan.run = result :=
  Option.some.inj ((runWithin_eq_run short).symm.trans ran)

theorem Reached.goesOn (reached : Reached source scan) (goes : Relation.ReflTransGen GoesOn scan last) :
    Reached source last := by
  induction goes with
  | refl => exact reached
  | tail _ onwards ih =>
    have stepped := ih.step onwards.1
    rwa [onwards.2] at stepped

theorem offset_le_of_goesOn (goes : Relation.ReflTransGen GoesOn scan last) :
    scan.cursor.offset ≤ last.cursor.offset := by
  induction goes with
  | refl => exact Nat.le_refl _
  | tail _ onwards ih => exact Nat.le_trans ih (Nat.le_of_lt (step_goes_on onwards.1 onwards.2).1)

/-- A run that stops does so in a step to which the steps before it have gone on. -/
theorem exists_last_step (ran : scan.run = (last, some stop)) :
    ∃ before, Relation.ReflTransGen GoesOn scan before ∧ before.isDone = false ∧
      before.step = (last, some stop) := by
  fun_induction Scan.run scan with
  | case1 scan more next stepped ih =>
    obtain ⟨before, goes, unfinished, stopped⟩ := ih ran
    exact ⟨before, .head ⟨more, stepped⟩ goes, unfinished, stopped⟩
  | case2 scan more next stop' stepped =>
    rw [ran] at stepped
    exact ⟨scan, .refl, more, stepped⟩
  | case3 => cases ran

/-- A run that does not stop goes on to the end of the text. -/
theorem goesOn_of_run (ran : scan.run = (last, none)) :
    Relation.ReflTransGen GoesOn scan last ∧ last.isDone = true := by
  fun_induction Scan.run scan with
  | case1 scan more next stepped ih =>
    obtain ⟨goes, done⟩ := ih ran
    exact ⟨.head ⟨more, stepped⟩ goes, done⟩
  | case2 => cases ran
  | case3 scan done =>
    cases ran
    exact ⟨.refl, by simpa using done⟩

theorem Reached.run (reached : Reached source scan) : Reached source scan.run.1 := by
  rcases ran : scan.run with ⟨last, _ | stop⟩
  · exact reached.goesOn (goesOn_of_run ran).1
  · obtain ⟨before, goes, more, stopped⟩ := exists_last_step ran
    have stepped := (reached.goesOn goes).step more
    rwa [stopped] at stepped

theorem tokens_prefix_run (scan : Scan) : scan.tokens <+: scan.run.1.tokens := by
  fun_induction Scan.run scan with
  | case1 scan more next stepped ih =>
    have step := tokens_prefix_step more
    rw [stepped] at step
    exact step.trans ih
  | case2 scan more next stop stepped =>
    have step := tokens_prefix_step more
    rwa [stepped] at step
  | case3 => exact List.prefix_rfl

/-! ## One run after another -/

/-- A scan after a number of runs, each of which takes it up where the one before has left it. -/
def resumed (scan : Scan) : (runs : Nat) → Scan
  | 0 => scan
  | runs + 1 => (resumed scan runs).run.1

theorem Reached.resumed (reached : Reached source scan) (runs : Nat) :
    Reached source (scan.resumed runs) := by
  induction runs with
  | zero => exact reached
  | succ runs ih => exact ih.run

theorem tokens_prefix_resumed {runs more : Nat} (later : runs ≤ more) :
    (scan.resumed runs).tokens <+: (scan.resumed more).tokens := by
  induction more, later using Nat.le_induction with
  | base => exact List.prefix_rfl
  | succ more _ ih => exact ih.trans (tokens_prefix_run _)

/-- A scan that a run leaves where a further run ends in the same way stays there. -/
theorem run_resumed_of_stays {runs more : Nat}
    (stays : (scan.resumed runs).run.1.run = (scan.resumed runs).run) (later : runs ≤ more) :
    (scan.resumed more).run = (scan.resumed runs).run := by
  induction more, later using Nat.le_induction with
  | base => rfl
  | succ more _ ih => rw [resumed, ih, stays]

theorem run_stays_at_end (returned : scan.run.2 = none) : scan.run.1.run = scan.run := by
  have ran : scan.run = (scan.run.1, none) := Prod.ext rfl returned
  rw [run_of_isDone (goesOn_of_run ran).2, ← ran]

theorem run_stays_at_nul (stopped : scan.run.2 = some stop) (nul : stop.AtNul) :
    scan.run.1.run = scan.run := by
  have ran : scan.run = (scan.run.1, some stop) := Prod.ext rfl stopped
  obtain ⟨before, -, more, halted⟩ := exists_last_step ran
  have still := eq_of_atNul halted nul
  rw [ran]
  rw [← still] at more halted
  exact run_of_stop more halted

theorem offset_lt_run (stopped : scan.run.2 = some stop) (other : ¬ stop.AtNul) :
    scan.cursor.offset < scan.run.1.cursor.offset := by
  have ran : scan.run = (scan.run.1, some stop) := Prod.ext rfl stopped
  obtain ⟨before, goes, more, halted⟩ := exists_last_step ran
  have forward := offset_le_of_goesOn goes
  obtain ⟨-, onwards, still⟩ := step_stops more halted
  have moved := mt still.mp other
  omega

/-- What becomes of a scan, wherever it has come to. A step that goes on moves it and finds at most one
token; a step that stops finds none, and leaves the scan in its place only at a NUL character. So every
run ends, after as many steps as the text has characters at most. Later runs leave the tokens that there
are as they stand. A run that gets to the end, or to a NUL character, is followed only by runs that end
like it, and one that stops anywhere else has moved the scan. -/
theorem Reached.resumes (reached : Reached source scan) :
    (scan.isDone = false →
      (∀ next, scan.step = (next, none) → scan.cursor.offset < next.cursor.offset ∧
        (next.tokens = scan.tokens ∨ ∃ token, next.tokens = scan.tokens ++ [token])) ∧
      ∀ next stop, scan.step = (next, some stop) → next.tokens = scan.tokens ∧
        scan.cursor.offset ≤ next.cursor.offset ∧
        (next.cursor.offset = scan.cursor.offset ↔ stop.AtNul)) ∧
    ∀ runs,
      (scan.resumed runs).runWithin source.length = some (scan.resumed runs).run ∧
      (∀ more ≥ runs, (scan.resumed runs).tokens <+: (scan.resumed more).tokens) ∧
      ((scan.resumed runs).run.2 = none →
        ∀ more ≥ runs, (scan.resumed more).run = (scan.resumed runs).run) ∧
      (∀ stop, (scan.resumed runs).run.2 = some stop → stop.AtNul →
        ∀ more ≥ runs, (scan.resumed more).run = (scan.resumed runs).run) ∧
      ∀ stop, (scan.resumed runs).run.2 = some stop → ¬ stop.AtNul →
        (scan.resumed runs).cursor.offset < (scan.resumed runs).run.1.cursor.offset := by
  refine ⟨fun more => ⟨fun _ => step_goes_on more, fun _ _ => step_stops more⟩, fun runs => ?_⟩
  have size := (reached.resumed runs).underway.within.length_eq
  exact ⟨runWithin_eq_run (by omega), fun _ => tokens_prefix_resumed,
    fun returned _ => run_resumed_of_stays (run_stays_at_end returned),
    fun _ stopped nul _ => run_resumed_of_stays (run_stays_at_nul stopped nul),
    fun _ => offset_lt_run⟩

/-- Behind a number and a string that does not end, a scan gets to the end when it is run again. -/
theorem Reached.resumes_open_string :
    Reached ['1', ' ', '"'] (Scan.start ['1', ' ', '"']) ∧
      ((Scan.start ['1', ' ', '"']).resumed 0).cursor.offset <
        ((Scan.start ['1', ' ', '"']).resumed 0).run.1.cursor.offset ∧
      ∀ more ≥ 1, ((Scan.start ['1', ' ', '"']).resumed more).run =
        ((Scan.start ['1', ' ', '"']).resumed 1).run := by
  have reached : Reached ['1', ' ', '"'] (Scan.start ['1', ' ', '"']) := .start
  obtain ⟨last, stopped, done⟩ : ∃ last, (Scan.start ['1', ' ', '"']).run =
      (last, some (.fault ⟨.openString, ⟨1, 3, 2⟩⟩)) ∧ last.isDone = true :=
    ⟨_, run_eq_of_runWithin (Nat.le_refl 3) rfl, rfl⟩
  have returned : ((Scan.start ['1', ' ', '"']).resumed 1).run.2 = none := by
    rw [Scan.resumed, Scan.resumed, stopped, run_of_isDone done]
  obtain ⟨-, -, -, -, moved⟩ := reached.resumes.2 0
  obtain ⟨-, -, stays, -⟩ := reached.resumes.2 1
  exact ⟨reached, moved _ (congrArg Prod.snd stopped) (by simp [Stop.AtNul]), stays returned⟩

end Scan
end NumeralStyle
