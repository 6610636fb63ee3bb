import Mathlib.Data.List.Nodup
import NumeralStyle.Text

/-! Edits of a text. An edit puts a spelling in place of a stretch of the text, and edits that are in
order and do not overlap are made all at once: each tells its stretch by offsets in the text as it was
before. -/
namespace NumeralStyle.Text

/-- A spelling in place of a stretch of a text. -/
structure Edit where
  /-- The number of characters before the stretch. -/
  start : Nat
  /-- The number of characters up to its end. -/
  stop : Nat
  spelling : Text
  deriving DecidableEq, Repr

/-- A text with edits made in it, the first of which come first. The text has `offset` characters
before it. -/
def splice (offset : Nat) : List Edit → Text → Text
  | [], text => text
  | edit :: edits, text =>
    text.take (edit.start - offset) ++ edit.spelling ++
      splice edit.stop edits (text.drop (edit.stop - offset))

/-- What stands before the first edit stays. -/
theorem splice_append {offset : Nat} {edits : List Edit} {used rest : Text}
    (later : ∀ edit ∈ edits, offset + used.length ≤ edit.start ∧ edit.start ≤ edit.stop) :
    splice offset edits (used ++ rest) = used ++ splice (offset + used.length) edits rest := by
  cases edits with
  | nil => rfl
  | cons edit edits =>
    obtain ⟨before, forward⟩ := later edit (by simp)
    have start : edit.start - offset = used.length + (edit.start - (offset + used.length)) := by omega
    have stop : edit.stop - offset = used.length + (edit.stop - (offset + used.length)) := by omega
    simp only [splice, start, stop, List.take_length_add_append, List.drop_length_add_append,
      List.append_assoc]

/-- An edit at the start of a text replaces its stretch. -/
theorem splice_cons {edit : Edit} {edits : List Edit} {raw rest : Text}
    (stop : edit.stop = edit.start + raw.length) :
    splice edit.start (edit :: edits) (raw ++ rest) = edit.spelling ++ splice edit.stop edits rest := by
  have drop : edit.stop - edit.start = raw.length := by omega
  simp [splice, drop]

/-- Edits that start one behind the other have one order only. -/
theorem mergeSort_eq {edits sorted : List Edit} (perm : edits.Perm sorted)
    (increasing : sorted.Pairwise fun first second => first.start < second.start) :
    edits.mergeSort (fun first second => first.start ≤ second.start) = sorted := by
  have ordered : (edits.mergeSort fun first second => first.start ≤ second.start).Pairwise
      fun first second => first.start ≤ second.start := by
    have chain (a b c : Edit) : decide (a.start ≤ b.start) → decide (b.start ≤ c.start) →
        decide (a.start ≤ c.start) := by simpa using Nat.le_trans
    have total (a b : Edit) : decide (a.start ≤ b.start) || decide (b.start ≤ a.start) := by
      simpa using Nat.le_total _ _
    simpa using List.pairwise_mergeSort chain total edits
  have starts : (sorted.map (·.start)).Nodup :=
    List.pairwise_map.mpr (increasing.imp fun before => Nat.ne_of_lt before)
  have perm' := (List.mergeSort_perm edits fun first second => first.start ≤ second.start).trans perm
  refine List.Perm.eq_of_pairwise (fun a b one other before behind => ?_) ordered
    (increasing.imp fun before => Nat.le_of_lt before) perm'
  exact List.inj_on_of_nodup_map starts (perm'.mem_iff.mp one) other (Nat.le_antisymm before behind)

end NumeralStyle.Text
