import NumeralStyle.Proofs.Check.Advice
import NumeralStyle.Proofs.Check.Regroup
import NumeralStyle.Proofs.Literal.Unseparated

/-! The verdict on groups, against the form in which `regroup` writes digits. Digits have one partition
into groups of the full width behind a first group of no more (`canonicalGroups_flatten`), so nothing
is said of a partition exactly if it is the one that regrouping makes, and otherwise the groups behind
the first decide what is said (`classifyGroups_iff_regroup`). -/
namespace NumeralStyle.Check

/-- Joined, the groups are what regrouping their digits gives. -/
def IsRegrouped [Platform] (width : Nat) (pieces : List Text) : Prop :=
  regroupSigned width false pieces.flatten = .ok (List.intercalate [separator] pieces)

/-- All groups behind the first are of one size, which is no less than the width. -/
def IsLargeBehind (width : Nat) (pieces : List Text) : Prop :=
  ∃ size ≥ width, ∀ piece ∈ pieces.tail, piece.length = size

variable {width : Nat} {leading : Text} {others : List Text}

/-! ## One canonical partition -/

/-- Full groups are what their digits are cut into. -/
theorem chunks_flatten (positive : 0 < width) {pieces : List Text}
    (full : ∀ piece ∈ pieces, piece.length = width) : chunks width pieces.flatten = pieces := by
  induction pieces with
  | nil => rw [chunks, if_pos (.inl List.flatten_nil)]
  | cons piece pieces ih =>
    have size : piece.length = width := full piece List.mem_cons_self
    have filled : ¬ ((piece :: pieces).flatten = [] ∨ width = 0) := by
      rw [List.flatten_cons, List.append_eq_nil_iff]
      rintro (⟨rfl, -⟩ | none)
      · rw [List.length_nil] at size
        omega
      · omega
    rw [chunks, if_neg filled, List.flatten_cons, List.take_left' size, List.drop_left' size,
      ih fun other member => full other (List.mem_cons_of_mem _ member)]

theorem dvd_length_flatten (full : ∀ group ∈ others, group.length = width) :
    width ∣ others.flatten.length := by
  induction others with
  | nil => exact Nat.dvd_zero width
  | cons group rest ih =>
    rw [List.flatten_cons, List.length_append, full group List.mem_cons_self]
    exact Nat.dvd_add (Nat.dvd_refl width)
      (ih fun other member => full other (List.mem_cons_of_mem _ member))

/-- A first group of no more than the width and full ones behind it are the canonical groups of their
digits. -/
theorem canonicalGroups_flatten (positive : 0 < width) (filled : leading ≠ [])
    (short : leading.length ≤ width) (full : ∀ group ∈ others, group.length = width) :
    canonicalGroups width (leading :: others).flatten = leading :: others := by
  have some := List.length_pos_iff.mpr filled
  have excess : (leading :: others).flatten.length % width = leading.length % width := by
    rw [List.flatten_cons, List.length_append, Nat.add_mod,
      Nat.mod_eq_zero_of_dvd (dvd_length_flatten full), Nat.add_zero, Nat.mod_mod]
  unfold canonicalGroups
  dsimp only
  rw [excess]
  rcases Nat.lt_or_eq_of_le short with less | size
  · have left : leading.length % width = leading.length := Nat.mod_eq_of_lt less
    rw [left, if_neg (by omega), List.flatten_cons, List.take_left' rfl, List.drop_left' rfl,
      chunks_flatten positive full]
    rfl
  · have even : leading.length % width = 0 := by rw [size, Nat.mod_self]
    have allFull : ∀ group ∈ leading :: others, group.length = width := by
      intro group member
      rcases List.mem_cons.mp member with rfl | behind
      · exact size
      · exact full group behind
    rw [even, if_pos rfl, List.drop_zero, chunks_flatten positive allFull]
    rfl

/-! ## What is said of a partition -/

/-- Where the groups behind the first are all of one size, that size is judged, and the first group
only where they are full. -/
theorem classify_of_uniform {size : Nat} (several : others ≠ [])
    (uniform : ∀ group ∈ others, group.length = size) :
    classify width leading others =
      if size = width ∧ leading.length ≤ width then none
      else if width ≤ size then some .largeGroups else some .inconsistentGroups := by
  obtain ⟨group, rest, rfl⟩ := List.exists_cons_of_ne_nil several
  have first : group.length = size := uniform group List.mem_cons_self
  have same : (rest.all fun other => other.length == group.length) = true := by
    apply List.all_eq_true.mpr
    intro other member
    rw [beq_iff_eq, first, uniform other (List.mem_cons_of_mem _ member)]
  unfold classify
  dsimp only
  rw [if_pos same, first]
  simp only [Int.ofNat_inj, Int.ofNat_le, Int.ofNat_lt]
  grind

/-- Where they are not, that is all there is to say. -/
theorem classify_of_uneven (uneven : ¬ ∃ size, ∀ group ∈ others, group.length = size) :
    classify width leading others = some .inconsistentGroups := by
  cases others with
  | nil => exact absurd ⟨0, by simp⟩ uneven
  | cons group rest =>
    have different : (rest.all fun other => other.length == group.length) = false := by
      rw [Bool.eq_false_iff]
      intro same
      apply uneven
      refine ⟨group.length, fun other member => ?_⟩
      rcases List.mem_cons.mp member with rfl | behind
      · rfl
      · exact beq_iff_eq.mp (List.all_eq_true.mp same other behind)
    simp only [classify, different, Bool.false_eq_true, if_false]

/-- Nothing is said exactly where the groups behind the first are full and the first has no more. -/
theorem classify_eq_none_iff (several : others ≠ []) :
    classify width leading others = none ↔
      leading.length ≤ width ∧ ∀ group ∈ others, group.length = width := by
  constructor
  · intro unminded
    by_cases uniform : ∃ size, ∀ group ∈ others, group.length = size
    · obtain ⟨size, uniform⟩ := uniform
      rw [classify_of_uniform several uniform] at unminded
      grind
    · rw [classify_of_uneven uniform] at unminded
      cases unminded
  · rintro ⟨short, full⟩
    exact classify_eq_none several short full

/-- Groups are too large exactly where something is said and those behind the first are all of one
size that is no less than the width. -/
theorem classify_eq_large_iff (several : others ≠ []) :
    classify width leading others = some .largeGroups ↔
      classify width leading others ≠ none ∧
        ∃ size ≥ width, ∀ group ∈ others, group.length = size := by
  by_cases uniform : ∃ size, ∀ group ∈ others, group.length = size
  · obtain ⟨size, uniform⟩ := uniform
    obtain ⟨group, among⟩ := List.exists_mem_of_ne_nil others several
    have only : (∃ other ≥ width, ∀ group ∈ others, group.length = other) ↔ width ≤ size := by
      constructor
      · rintro ⟨other, large, same⟩
        rwa [← uniform group among, same group among]
      · exact fun large => ⟨size, large, uniform⟩
    rw [only, classify_of_uniform several uniform]
    grind
  · rw [classify_of_uneven uniform]
    constructor
    · intro large
      cases large
    · rintro ⟨-, size, -, same⟩
      exact absurd ⟨size, same⟩ uniform

/-- There is no third thing to say of groups. -/
theorem classify_eq_inconsistent_iff (several : others ≠ []) :
    classify width leading others = some .inconsistentGroups ↔
      classify width leading others ≠ none ∧
        ¬ ∃ size ≥ width, ∀ group ∈ others, group.length = size := by
  have large : classify width leading others = some .largeGroups ↔ _ :=
    classify_eq_large_iff several
  cases verdict : classify width leading others with
  | none => simp
  | some kind =>
    rw [verdict] at large
    rcases classify_eq_some verdict with rfl | rfl
    · simpa using large.mp rfl
    · simpa using large

/-! ## Regrouping -/

/-- Groups are the canonical groups of their digits exactly where regrouping these gives them back. -/
theorem classify_eq_none_iff_regroup (positive : 0 < width) (several : others ≠ [])
    (valid : ∀ group ∈ leading :: others, IsGroup group) :
    classify width leading others = none ↔
      regroup width false (leading :: others).flatten =
        List.intercalate [separator] (leading :: others) := by
  have clean : separator ∉ (leading :: others).flatten := by
    intro inside
    obtain ⟨group, among, member⟩ := List.mem_flatten.mp inside
    exact (valid group among).2 member
  constructor
  · intro unminded
    obtain ⟨short, full⟩ := (classify_eq_none_iff several).mp unminded
    have filled := (valid leading List.mem_cons_self).1
    change List.intercalate [separator] (canonicalGroups width (leading :: others).flatten) = _
    rw [canonicalGroups_flatten positive filled short full]
  · intro same
    have canonical : canonicalGroups width (leading :: others).flatten = leading :: others := by
      have cut := congrArg groups same
      rwa [groups_regroup positive false clean, groups_intercalate valid] at cut
    exact classify_canonicalGroups positive canonical several

/-- Filled digits need no more zeros. -/
theorem filled_filled (positive : 0 < width) (pad : Bool) (digits : Text) :
    filled width pad (filled width pad digits) = filled width pad digits := by
  cases pad with
  | false => rfl
  | true =>
    obtain ⟨zeros, -, -, whole⟩ := exists_padded positive digits
    change padded width (padded width digits) = padded width digits
    rw [padded, Nat.mod_eq_zero_of_dvd whole, Nat.sub_zero, Nat.mod_self]
    rfl

/-- Digits are regrouped unless they cannot be filled up. -/
theorem regroupSigned_eq_ok_iff [Platform] (positive : 0 < width) {pad : Bool} {digits grouped : Text} :
    regroupSigned width pad digits = .ok grouped ↔
      (pad = true → paddingOversize? width digits = none) ∧ regroup width pad digits = grouped := by
  have some : (width : Int) ≠ 0 := by omega
  have more : (0 : Int) < width := by omega
  unfold regroupSigned
  rw [if_neg some, if_pos more, Int.toNat_natCast]
  cases pad with
  | false => simp
  | true => cases oversize : paddingOversize? width digits <;> simp

theorem oversize_of_regroupSigned [Platform] (positive : 0 < width) {pad : Bool} {digits : Text}
    {fault : GroupingFault} (failed : regroupSigned width pad digits = .error fault) :
    pad = true ∧ ∃ reason, paddingOversize? width digits = some reason ∧ fault = .oversize reason := by
  have some : (width : Int) ≠ 0 := by omega
  have more : (0 : Int) < width := by omega
  unfold regroupSigned at failed
  rw [if_neg some, if_pos more, Int.toNat_natCast] at failed
  cases pad with
  | false => cases failed
  | true =>
    cases oversize : paddingOversize? width digits with
    | none => simp [oversize] at failed
    | some reason =>
      simp only [oversize, if_true, Except.error.injEq] at failed
      exact ⟨rfl, reason, rfl, failed.symm⟩

theorem isRegrouped_iff [Platform] (positive : 0 < width) {pieces : List Text} :
    IsRegrouped width pieces ↔
      regroup width false pieces.flatten = List.intercalate [separator] pieces := by
  rw [IsRegrouped, regroupSigned_eq_ok_iff positive]
  simp

/-- Regrouping what was regrouped changes nothing. -/
theorem regroup_withoutSeparators_regroup (positive : 0 < width) (pad : Bool) {digits : Text}
    (clean : separator ∉ digits) :
    regroup width pad (withoutSeparators (regroup width pad digits)) = regroup width pad digits := by
  rw [withoutSeparators_regroup positive pad clean]
  change List.intercalate _ (canonicalGroups width (filled width pad (filled width pad digits))) = _
  rw [filled_filled positive]
  rfl

/-- Filled digits can be filled up: there is nothing to do. -/
theorem paddingOversize?_filled [Platform] (positive : 0 < width) (digits : Text) :
    paddingOversize? width (filled width true digits) = none := by
  obtain ⟨zeros, -, -, whole⟩ := exists_padded positive digits
  exact if_pos (Nat.mod_eq_zero_of_dvd whole)

theorem regroupSigned_withoutSeparators [Platform] (positive : 0 < width)
    {pad : Bool} {digits grouped : Text} (clean : separator ∉ digits)
    (made : regroupSigned width pad digits = .ok grouped) :
    regroupSigned width pad (withoutSeparators grouped) = .ok grouped := by
  obtain ⟨-, rfl⟩ := (regroupSigned_eq_ok_iff positive).mp made
  apply (regroupSigned_eq_ok_iff positive).mpr
  refine ⟨fun padded => ?_, regroup_withoutSeparators_regroup positive pad clean⟩
  rw [withoutSeparators_regroup positive pad clean, padded]
  exact paddingOversize?_filled positive digits

/-- Groups get no verdict where regrouping their digits gives them back. Otherwise they are too large
where all behind the first are of one size that is no less than the width, and inconsistent in all
other cases. Digits that were regrouped are regrouped in the same way again. -/
theorem classifyGroups_iff_regroup [Platform] (positive : 0 < width) :
    (∀ pieces : List Text, 2 ≤ pieces.length → (∀ piece ∈ pieces, IsGroup piece) →
      (classifyGroups width pieces = .ok none ↔ IsRegrouped width pieces) ∧
      (classifyGroups width pieces = .ok (some .largeGroups) ↔
        ¬ IsRegrouped width pieces ∧ IsLargeBehind width pieces) ∧
      (classifyGroups width pieces = .ok (some .inconsistentGroups) ↔
        ¬ IsRegrouped width pieces ∧ ¬ IsLargeBehind width pieces)) ∧
    ∀ (pad : Bool) (digits : Text), separator ∉ digits →
      regroup width pad (withoutSeparators (regroup width pad digits)) = regroup width pad digits ∧
      (∀ grouped, regroupSigned width pad digits = .ok grouped →
        regroupSigned width pad (withoutSeparators grouped) = .ok grouped) ∧
      ∀ fault, regroupSigned width pad digits = .error fault →
        pad = true ∧
          ∃ reason, paddingOversize? width digits = some reason ∧ fault = .oversize reason := by
  refine ⟨fun pieces several valid => ?_, fun pad digits clean => ?_⟩
  · obtain ⟨leading, others, rfl⟩ : ∃ leading others, pieces = leading :: others := by
      apply List.exists_cons_of_ne_nil
      rintro rfl
      simp at several
    have several' : others ≠ [] := by
      rintro rfl
      simp at several
    have unminded : IsRegrouped width (leading :: others) ↔ classify width leading others = none :=
      (isRegrouped_iff positive).trans (classify_eq_none_iff_regroup positive several' valid).symm
    simp only [classifyGroups, Except.ok.injEq, unminded]
    exact ⟨trivial, classify_eq_large_iff several', classify_eq_inconsistent_iff several'⟩
  · exact ⟨regroup_withoutSeparators_regroup positive pad clean,
      fun grouped made => regroupSigned_withoutSeparators positive clean made,
      fun fault failed => oversize_of_regroupSigned positive failed⟩

/-- Behind a first group that is longer than the width even full groups are too large. -/
theorem classifyGroups_iff_regroup_long_lead :
    0 < 3 ∧ 2 ≤ [['1', '2', '3', '4'], ['5', '6', '7']].length ∧
      (∀ piece ∈ [['1', '2', '3', '4'], ['5', '6', '7']], IsGroup piece) ∧
      classifyGroups 3 [['1', '2', '3', '4'], ['5', '6', '7']] = .ok (some .largeGroups) ∧
      separator ∉ ['1', '2', '3', '4'] ∧
      regroupSigned 3 true (withoutSeparators ['0', '0', '1', '_', '2', '3', '4']) =
        .ok ['0', '0', '1', '_', '2', '3', '4'] := by
  have several : 2 ≤ [['1', '2', '3', '4'], ['5', '6', '7']].length := by decide
  have valid : ∀ piece ∈ [['1', '2', '3', '4'], ['5', '6', '7']], IsGroup piece := by
    simp [IsGroup, separator]
  have positive : 0 < 3 := by decide
  obtain ⟨verdicts, again⟩ := classifyGroups_iff_regroup positive
  obtain ⟨-, large, -⟩ := verdicts _ several valid
  have other : ¬ IsRegrouped 3 [['1', '2', '3', '4'], ['5', '6', '7']] := by
    rw [isRegrouped_iff (by decide)]
    decide +kernel
  have full : IsLargeBehind 3 [['1', '2', '3', '4'], ['5', '6', '7']] :=
    ⟨3, Nat.le_refl 3, by simp⟩
  have clean : separator ∉ ['1', '2', '3', '4'] := by decide
  have made : regroupSigned 3 true ['1', '2', '3', '4'] = .ok ['0', '0', '1', '_', '2', '3', '4'] :=
    (regroupSigned_eq_ok_iff (by decide)).mpr ⟨by decide, by decide +kernel⟩
  exact ⟨positive, several, valid, large.mpr ⟨other, full⟩, clean,
    (again true _ clean).2.1 _ made⟩

end NumeralStyle.Check
