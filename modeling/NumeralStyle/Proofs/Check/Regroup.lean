import NumeralStyle.Check.Grouping
import NumeralStyle.Proofs.Literal.Groups

/-! Canonical groups. Of the groups that `canonicalGroups` makes, the first has no more than the full
width and all others have it, and together they are the digits they were made from; such groups are
what no check minds (`classify_canonicalGroups`). How digits are grouped and judged is up to their number
alone (`regroup_map`, `classify_map`). -/
namespace NumeralStyle.Check

theorem flatten_chunks {width : Nat} (positive : 0 < width) (text : Text) :
    (chunks width text).flatten = text := by
  fun_induction chunks width text with
  | case1 text stopped => 
    rcases stopped with rfl | rfl
    · rfl
    · omega
  | case2 text proceed ih => rw [List.flatten_cons, ih, List.take_append_drop]

/-- Chunks of a text whose length the width divides are full. -/
theorem length_of_mem_chunks {width : Nat} {text chunk : Text} (whole : width ∣ text.length)
    (member : chunk ∈ chunks width text) : chunk.length = width := by
  fun_induction chunks width text with
  | case1 text stopped => cases member
  | case2 text proceed ih =>
    obtain ⟨filled, positive⟩ := not_or.mp proceed
    have long : width ≤ text.length :=
      Nat.le_of_dvd (List.length_pos_iff.mpr filled) whole
    rcases List.mem_cons.mp member with rfl | behind
    · rw [List.length_take, Nat.min_eq_left long]
    · refine ih ?_ behind
      rw [List.length_drop]
      exact Nat.dvd_sub whole (Nat.dvd_refl width)

theorem flatten_canonicalGroups {width : Nat} (positive : 0 < width) (digits : Text) :
    (canonicalGroups width digits).flatten = digits := by
  unfold canonicalGroups
  dsimp only
  rw [List.flatten_append, flatten_chunks positive]
  split
  · rename_i full
    simp [full]
  · simp

/-- What is left of digits behind the first group is made of full groups. -/
theorem dvd_length_drop (width : Nat) (digits : Text) :
    width ∣ (digits.drop (digits.length % width)).length := by
  rw [List.length_drop]
  exact Nat.dvd_sub_mod digits.length

/-- Of canonical groups the first has no more than the full width, and the others have it. -/
theorem canonicalGroups_lengths {width : Nat} {digits leading : Text} {others : List Text}
    (positive : 0 < width) (same : canonicalGroups width digits = leading :: others) :
    leading.length ≤ width ∧ ∀ group ∈ others, group.length = width := by
  have whole := dvd_length_drop width digits
  have small : digits.length % width < width := Nat.mod_lt _ positive
  unfold canonicalGroups at same
  dsimp only at same
  split at same
  · rw [List.nil_append] at same
    have full : ∀ group ∈ leading :: others, group.length = width := by
      rw [← same]
      exact fun group member => length_of_mem_chunks whole member
    exact ⟨Nat.le_of_eq (full leading (by simp)),
      fun group member => full group (List.mem_cons_of_mem _ member)⟩
  · obtain ⟨rfl, rfl⟩ := List.cons.inj same
    refine ⟨?_, fun group member => length_of_mem_chunks whole member⟩
    rw [List.length_take]
    omega

/-- Canonical groups of digits whose number the width divides are all full. -/
theorem length_of_mem_canonicalGroups {width : Nat} {digits group : Text}
    (whole : width ∣ digits.length) (member : group ∈ canonicalGroups width digits) :
    group.length = width := by
  have even : digits.length % width = 0 := Nat.mod_eq_zero_of_dvd whole
  unfold canonicalGroups at member
  dsimp only at member
  rw [if_pos even, even, List.nil_append, List.drop_zero] at member
  exact length_of_mem_chunks whole member

theorem ne_nil_of_mem_canonicalGroups {width : Nat} {digits group : Text} (positive : 0 < width)
    (member : group ∈ canonicalGroups width digits) : group ≠ [] := by
  rintro rfl
  have whole := dvd_length_drop width digits
  unfold canonicalGroups at member
  dsimp only at member
  rcases List.mem_append.mp member with first | behind
  · split at first
    · cases first
    · rename_i excess
      have none := congrArg List.length (List.mem_singleton.mp first)
      have small := Nat.mod_le digits.length width
      rw [List.length_take, List.length_nil] at none
      omega
  · have full := length_of_mem_chunks whole behind
    rw [List.length_nil] at full
    omega

theorem isGroup_of_mem_canonicalGroups {width : Nat} {digits group : Text} (positive : 0 < width)
    (clean : separator ∉ digits) (member : group ∈ canonicalGroups width digits) :
    IsGroup group := by
  refine ⟨ne_nil_of_mem_canonicalGroups positive member, fun inside => clean ?_⟩
  rw [← flatten_canonicalGroups positive digits]
  exact List.mem_flatten.mpr ⟨group, member, inside⟩

/-- What has the lengths of canonical groups is not minded. -/
theorem classify_eq_none {width : Nat} {leading : Text} {others : List Text} (several : others ≠ [])
    (first : leading.length ≤ width) (full : ∀ group ∈ others, group.length = width) :
    classify width leading others = none := by
  obtain ⟨group, rest, rfl⟩ := List.exists_cons_of_ne_nil several
  have size := full group (by simp)
  have uniform : (rest.all fun other => other.length == group.length) = true := by
    refine List.all_eq_true.mpr fun other member => ?_
    rw [beq_iff_eq, size, full other (by simp [member])]
  have exactly : (group.length : Int) = width := by rw [size]
  have small : (leading.length : Int) ≤ width := by omega
  simp only [classify, uniform, exactly, small, if_true]

theorem classify_canonicalGroups {width : Nat} {digits leading : Text} {others : List Text}
    (positive : 0 < width) (same : canonicalGroups width digits = leading :: others)
    (several : others ≠ []) : classify width leading others = none := by
  obtain ⟨first, full⟩ := canonicalGroups_lengths positive same
  exact classify_eq_none several first full

/-! ## Regrouped digits -/

/-- The digits that `regroup` groups. -/
def filled (width : Nat) (pad : Bool) (digits : Text) : Text :=
  if pad then padded width digits else digits

/-- Filling up digits only puts zeros in front of them. -/
theorem exists_filled (width : Nat) (pad : Bool) (digits : Text) :
    ∃ count, filled width pad digits = List.replicate count '0' ++ digits := by
  cases pad with
  | false => exact ⟨0, rfl⟩
  | true => exact ⟨_, rfl⟩

/-- Padding puts fewer zeros in front of digits than the width, and then the width divides their
number. -/
theorem exists_padded {width : Nat} (positive : 0 < width) (digits : Text) :
    ∃ zeros < width, padded width digits = List.replicate zeros '0' ++ digits ∧
      width ∣ (padded width digits).length := by
  refine ⟨(width - digits.length % width) % width, Nat.mod_lt _ positive, rfl, ?_⟩
  have small : digits.length % width < width := Nat.mod_lt _ positive
  rw [padded, List.length_append, List.length_replicate]
  apply Nat.dvd_of_mod_eq_zero
  rw [Nat.mod_add_mod, Nat.add_mod, Nat.mod_add_mod, Nat.sub_add_cancel (Nat.le_of_lt small),
    Nat.mod_self]

theorem separator_not_mem_filled {width : Nat} {pad : Bool} {digits : Text}
    (clean : separator ∉ digits) : separator ∉ filled width pad digits := by
  obtain ⟨count, same⟩ := exists_filled width pad digits
  rw [same, List.mem_append, List.mem_replicate]
  rintro (⟨-, zero⟩ | inside)
  · exact absurd zero (by decide)
  · exact clean inside

theorem isGroup_filled {width : Nat} {digits : Text} (positive : 0 < width) (pad : Bool)
    (clean : separator ∉ digits) :
    ∀ group ∈ canonicalGroups width (filled width pad digits), IsGroup group :=
  fun _ member => isGroup_of_mem_canonicalGroups positive (separator_not_mem_filled clean) member

theorem groups_regroup {width : Nat} {digits : Text} (positive : 0 < width) (pad : Bool)
    (clean : separator ∉ digits) :
    groups (regroup width pad digits) = canonicalGroups width (filled width pad digits) :=
  groups_intercalate (isGroup_filled positive pad clean)

theorem head?_regroup {width : Nat} {digits : Text} (positive : 0 < width) (pad : Bool)
    (clean : separator ∉ digits) :
    (regroup width pad digits).head? = (filled width pad digits).head? := by
  have starts := head?_intercalate (isGroup_filled positive pad clean)
  rwa [flatten_canonicalGroups positive] at starts

theorem getLast?_regroup {width : Nat} {digits : Text} (positive : 0 < width) (pad : Bool)
    (clean : separator ∉ digits) :
    (regroup width pad digits).getLast? = (filled width pad digits).getLast? := by
  have ends := getLast?_intercalate (isGroup_filled positive pad clean)
  rwa [flatten_canonicalGroups positive] at ends

theorem withoutSeparators_regroup {width : Nat} {digits : Text} (positive : 0 < width) (pad : Bool)
    (clean : separator ∉ digits) :
    withoutSeparators (regroup width pad digits) = filled width pad digits := by
  rw [← flatten_groups, groups_regroup positive pad clean, flatten_canonicalGroups positive]

/-! ## Other digits in the same groups -/

/-- The verdict on groups asks for no more than how long they are. -/
theorem classify_map (recase : Char → Char) (width : Int) (leading : Text) (groups : List Text) :
    classify width (leading.map recase) (groups.map (List.map recase)) =
      classify width leading groups := by
  cases groups with
  | nil => simp only [classify, List.map_nil, List.length_map]
  | cons group rest =>
    simp only [classify, List.map_cons, List.all_map, List.length_map, Function.comp_def]

theorem chunks_map (recase : Char → Char) (width : Nat) (text : Text) :
    chunks width (text.map recase) = (chunks width text).map (List.map recase) := by
  fun_induction chunks width text with
  | case1 text stopped => rw [chunks, if_pos (by simpa using stopped), List.map_nil]
  | case2 text proceed ih =>
    rw [chunks, if_neg (by simpa using proceed), List.map_cons, ← ih, List.map_take, List.map_drop]

theorem canonicalGroups_map (recase : Char → Char) (width : Nat) (digits : Text) :
    canonicalGroups width (digits.map recase) =
      (canonicalGroups width digits).map (List.map recase) := by
  simp only [canonicalGroups, List.length_map, List.map_append, ← List.map_drop, chunks_map]
  split
  · rfl
  · rw [List.map_singleton, List.map_take]

theorem filled_map {recase : Char → Char} (zero : recase '0' = '0') (width : Nat) (pad : Bool)
    (digits : Text) : filled width pad (digits.map recase) = (filled width pad digits).map recase := by
  cases pad with
  | false => rfl
  | true => simp only [filled, if_true, padded, List.length_map, List.map_append,
      List.map_replicate, zero]

/-- Digits are grouped by their number alone. -/
theorem regroup_map {recase : Char → Char} (zero : recase '0' = '0')
    (fixed : recase separator = separator) (width : Nat) (pad : Bool) (digits : Text) :
    regroup width pad (digits.map recase) = (regroup width pad digits).map recase := by
  change List.intercalate [separator] (canonicalGroups width (filled width pad (digits.map recase))) =
    (List.intercalate [separator] (canonicalGroups width (filled width pad digits))).map recase
  rw [filled_map zero, canonicalGroups_map, Text.map_intercalate, List.map_singleton, fixed]

end NumeralStyle.Check
