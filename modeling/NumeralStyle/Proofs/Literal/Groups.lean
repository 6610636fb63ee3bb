import NumeralStyle.Literal.Basic

/-! Groups of digits and texts that join them. Joining groups with separators is undone by `groups`,
as long as no group is empty or has a separator in it (`groups_intercalate`). Other characters in the
place of those that are no separators change nothing but the groups they are in (`groups_map`). -/
namespace NumeralStyle.Text

theorem stretches_of_not_mem {between : Char} {text : Text} (none : between ∉ text) :
    stretches between text = [text] := by
  induction text with
  | nil => rfl
  | cons c rest ih =>
    simp only [List.mem_cons, not_or] at none
    simp only [stretches, Ne.symm none.1, if_false, ih none.2]

theorem stretches_append {between : Char} {text : Text} (none : between ∉ text) (rest : Text) :
    stretches between (text ++ between :: rest) = text :: stretches between rest := by
  induction text with
  | nil => simp [stretches]
  | cons c others ih =>
    simp only [List.mem_cons, not_or] at none
    simp only [List.cons_append, stretches, Ne.symm none.1, if_false, ih none.2]

/-- A stretch lies between the occurrences of the character. -/
theorem not_mem_of_mem_stretches {between : Char} {text piece : Text}
    (among : piece ∈ stretches between text) : between ∉ piece := by
  induction text generalizing piece with
  | nil =>
    obtain rfl := List.mem_singleton.mp among
    exact List.not_mem_nil
  | cons c rest ih =>
    rw [stretches] at among
    split at among
    · rcases List.mem_cons.mp among with rfl | behind
      · exact List.not_mem_nil
      · exact ih behind
    · rename_i other
      split at among
      · rename_i none
        exact absurd none (stretches_ne_nil between rest)
      · rename_i first others found
        rcases List.mem_cons.mp among with rfl | behind
        · rw [List.mem_cons, not_or]
          exact ⟨Ne.symm other, ih (by simp [found])⟩
        · exact ih (by simp [found, behind])

theorem stretches_map {recase : Char → Char} {between : Char} {text : Text}
    (fixed : ∀ c ∈ text, recase c = between ↔ c = between) :
    stretches between (text.map recase) = (stretches between text).map (List.map recase) := by
  induction text with
  | nil => rfl
  | cons c rest ih =>
    have ih := ih fun d member => fixed d (List.mem_cons_of_mem _ member)
    by_cases same : c = between
    · have same' := (fixed c (List.mem_cons_self ..)).mpr same
      simp only [List.map_cons, stretches, if_pos same, if_pos same', ih, List.map_nil]
    · have other := mt (fixed c (List.mem_cons_self ..)).mp same
      simp only [List.map_cons, stretches, if_neg same, if_neg other, ih]
      cases stretches between rest <;> rfl

theorem map_intercalate (recase : Char → Char) (between : Text) (pieces : List Text) :
    (List.intercalate between pieces).map recase =
      List.intercalate (between.map recase) (pieces.map (List.map recase)) := by
  induction pieces with
  | nil => rfl
  | cons piece others ih =>
    cases others with
    | nil => simp only [List.intercalate_singleton, List.map_cons, List.map_nil]
    | cons next rest =>
      simp only [List.map_cons] at ih
      simp only [List.map_cons, List.intercalate_cons_cons, List.map_append, ih]

end NumeralStyle.Text

namespace NumeralStyle
open Text

/-- A group: something, and no separator in it. -/
def IsGroup (group : Text) : Prop := group ≠ [] ∧ separator ∉ group

theorem isGroup_of_mem_groups {text group : Text} (among : group ∈ groups text) : IsGroup group := by
  obtain ⟨stretch, filled⟩ := List.mem_filter.mp among
  exact ⟨by simpa using filled, not_mem_of_mem_stretches stretch⟩

theorem groups_of_isGroup {group : Text} (valid : IsGroup group) : groups group = [group] := by
  simp [groups, stretches_of_not_mem valid.2, valid.1]

theorem groups_append {group : Text} (valid : IsGroup group) (rest : Text) :
    groups (group ++ separator :: rest) = group :: groups rest := by
  simp [groups, stretches_append valid.2, valid.1]

/-- What leaves the separators as they are leaves the groups in their places. -/
theorem groups_map {recase : Char → Char} {text : Text}
    (fixed : ∀ c ∈ text, recase c = separator ↔ c = separator) :
    groups (text.map recase) = (groups text).map (List.map recase) := by
  rw [groups, groups, stretches_map fixed, List.filter_map]
  simp only [Function.comp_def, List.isEmpty_map]

/-- The groups of joined groups are those. -/
theorem groups_intercalate {pieces : List Text} (valid : ∀ piece ∈ pieces, IsGroup piece) :
    groups (List.intercalate [separator] pieces) = pieces := by
  induction pieces with
  | nil => rfl
  | cons piece others ih =>
    have first := valid piece (by simp)
    have behind := ih fun other member => valid other (by simp [member])
    cases others with
    | nil => rw [List.intercalate_singleton, groups_of_isGroup first]
    | cons next rest =>
      rw [List.intercalate_cons_cons, List.append_assoc, List.singleton_append,
        groups_append first, behind]

/-- Joined groups start as the groups do. -/
theorem head?_intercalate {pieces : List Text} (valid : ∀ piece ∈ pieces, IsGroup piece) :
    (List.intercalate [separator] pieces).head? = pieces.flatten.head? := by
  cases pieces with
  | nil => rfl
  | cons piece others =>
    obtain ⟨c, rest, rfl⟩ := List.exists_cons_of_ne_nil (valid piece (by simp)).1
    cases others with
    | nil => simp
    | cons next rest =>
      rw [List.intercalate_cons_cons]
      rfl

/-- Joined groups end as the groups do. -/
theorem getLast?_intercalate {pieces : List Text} (valid : ∀ piece ∈ pieces, IsGroup piece) :
    (List.intercalate [separator] pieces).getLast? = pieces.flatten.getLast? := by
  induction pieces with
  | nil => rfl
  | cons piece others ih =>
    have behind := ih fun other member => valid other (List.mem_cons_of_mem _ member)
    cases others with
    | nil => simp
    | cons next rest =>
      have filled : (next :: rest).flatten ≠ [] := by
        simp [(valid next (by simp)).1]
      obtain ⟨c, last⟩ := Option.ne_none_iff_exists'.mp (mt List.getLast?_eq_none_iff.mp filled)
      rw [List.intercalate_cons_cons, List.flatten_cons, List.getLast?_append, behind, last,
        List.getLast?_append, List.getLast?_append, last]
      rfl

end NumeralStyle
