import NumeralStyle.Proofs.Literal.Unseparated

/-! What a literal keeps of its spelling. The lead of the base, the digits and the suffix are all the
spelling has beside its separators; the tail stands in it as it is, with nothing but separators and the
suffix behind it, and a point, an exponent or a floating point suffix is what makes a number a floating
point number (`lossless_of_parse`). -/
namespace NumeralStyle.Literal

/-- The suffix without its separator, or nothing. -/
def suffixName (literal : Literal) : Text := (literal.suffix.map (·.suffix.text)).getD []

/-- Nothing of a spelling is lost in the literal that is read from it. -/
structure Lossless (raw : Text) (literal : Literal) : Prop where
  /-- But for its separators, the spelling is the lead, the digits and the suffix. -/
  spelled : withoutSeparators raw = literal.radix.lead ++ literal.digitRun ++ literal.suffixName
  run : literal.digitRun = literal.rawGroups.flatten
  pieces : literal.digitRun = literal.digits ++ withoutSeparators literal.fraction ++
    withoutSeparators literal.exponentPart
  groups : ∀ group ∈ literal.rawGroups ++ literal.integerGroups, IsGroup group
  integral : literal.fraction = [] → literal.exponentPart = [] →
    literal.rawGroups = literal.integerGroups
  /-- Behind the tail there are separators and the suffix only. -/
  tail : ∀ tail ∈ literal.unrecognizedSuffix, ∃ front count,
    raw = front ++ tail ++ List.replicate count separator ++ literal.suffixName
  float : literal.kind = .float ↔
    literal.fraction ≠ [] ∨ literal.exponentPart ≠ [] ∨
      literal.suffix.map (·.suffix) = some .f32 ∨ literal.suffix.map (·.suffix) = some .f64
  decimal : literal.kind = .float → literal.radix = .decimal

variable {literal : Literal} {raw : Text}

/-- The parts of a literal are its number; the tail is with one of them. -/
theorem parts_eq_body (literal : Literal) :
    literal.integerPart ++ literal.fraction ++ literal.exponentPart = literal.body := by
  by_cases pointed : literal.isPointed = true
  · simp [integerPart, exponentPart, pointed, body]
  · obtain ⟨fraction, exponent⟩ : literal.fraction = [] ∧ literal.exponent = [] := by
      simpa [isPointed] using pointed
    simp [integerPart, exponentPart, pointed, body, fraction, exponent]

theorem digitRun_eq_parts (literal : Literal) :
    literal.digitRun = literal.digits ++ withoutSeparators literal.fraction ++
      withoutSeparators literal.exponentPart := by
  rw [digitRun_eq, ← parts_eq_body, withoutSeparators_append, withoutSeparators_append,
    digits_eq_withoutSeparators]

/-- Behind the number there are separators and the suffix. -/
theorem Ending.exists_separators {ending : Text} (ends : Ending literal.suffix ending) :
    ∃ count, ending = List.replicate count separator ++ literal.suffixName := by
  unfold suffixName
  generalize literal.suffix = suffix at ends
  cases ends with
  | none => exact ⟨0, rfl⟩
  | glued suffix => exact ⟨0, rfl⟩
  | separated count suffix => exact ⟨count + 1, rfl⟩

theorem separator_not_mem_suffixName (literal : Literal) : separator ∉ literal.suffixName := by
  unfold suffixName
  cases literal.suffix with
  | none => exact List.not_mem_nil
  | some written => exact written.suffix.separator_not_mem_text

theorem kind_eq_float_iff :
    literal.kind = .float ↔ literal.isPointed = true ∨
      literal.suffix.map (·.suffix) = some .f32 ∨ literal.suffix.map (·.suffix) = some .f64 := by
  have float : literal.suffix.any (·.suffix.isFloat) = true ↔
      literal.suffix.map (·.suffix) = some .f32 ∨ literal.suffix.map (·.suffix) = some .f64 := by
    cases literal.suffix with
    | none => simp
    | some written =>
      obtain ⟨suffix, separated⟩ := written
      cases suffix <;> simp [Suffix.isFloat]
  rw [← float, kind]
  split
  · rename_i either
    simpa using either
  · rename_i neither
    simpa using neither

/-- A literal with a point or an exponent has a fraction or an exponent, the tail counted with the
exponent. -/
theorem isPointed_iff :
    literal.isPointed = true ↔ literal.fraction ≠ [] ∨ literal.exponentPart ≠ [] := by
  by_cases pointed : literal.isPointed = true
  · refine iff_of_true pointed ?_
    have either : literal.fraction ≠ [] ∨ literal.exponent ≠ [] := by
      simpa [isPointed] using pointed
    rw [exponentPart, if_pos pointed]
    exact either.imp_right fun marked => List.append_ne_nil_of_left_ne_nil marked _
  · have integral : literal.fraction = [] := by simp_all [isPointed]
    simp [exponentPart, pointed, integral]

/-- Floating point numbers are decimal. -/
theorem radix_of_kind (valid : literal.toPieces.Valid literal.radix)
    (allowed : ∀ written ∈ literal.suffix, written.suffix.Allowed literal.radix)
    (float : literal.kind = .float) : literal.radix = .decimal := by
  rcases kind_eq_float_iff.mp float with pointed | single | double
  · exact radix_of_isPointed valid pointed
  · obtain ⟨written, suffixed, same⟩ := Option.map_eq_some_iff.mp single
    refine (allowed written suffixed).resolve_right ?_
    rw [same]
    decide
  · obtain ⟨written, suffixed, same⟩ := Option.map_eq_some_iff.mp double
    refine (allowed written suffixed).resolve_right ?_
    rw [same]
    decide

/-- A literal has all of its spelling, cut as its parts say. -/
theorem lossless_of_parse (read : parse raw = .ok literal) : Lossless raw literal := by
  obtain ⟨-, text, -, cut, valid, -⟩ := parse_eq_ok_iff.mp read
  obtain ⟨ending, ends, spelled⟩ := exists_ending read
  obtain ⟨count, rfl⟩ := ends.exists_separators
  exact {
    spelled := by
      rw [spelled, withoutSeparators_append, withoutSeparators_append, withoutSeparators_append,
        withoutSeparators_replicate, withoutSeparators_of_not_mem literal.radix.separator_not_mem_lead,
        withoutSeparators_of_not_mem literal.separator_not_mem_suffixName, ← digitRun_eq]
      simp
    run := rfl
    pieces := digitRun_eq_parts literal
    groups := fun group among =>
      (List.mem_append.mp among).elim isGroup_of_mem_groups isGroup_of_mem_groups
    integral := fun fraction exponent => by
      rw [rawGroups, ← parts_eq_body, fraction, exponent, List.append_nil, List.append_nil,
        integerGroups]
    tail := fun tail known => by
      obtain rfl : literal.tail = tail := by
        simp only [unrecognizedSuffix, Option.mem_def] at known
        split at known
        · cases known
        · exact Option.some.inj known
      refine ⟨literal.radix.lead ++ (literal.whole ++ literal.fraction ++ literal.exponent), count, ?_⟩
      rw [spelled, body]
      simp
    float := by
      rw [kind_eq_float_iff, isPointed_iff, or_assoc]
    decimal := radix_of_kind valid fun written suffixed => (cut.suffixed written suffixed).1 }

/-- The tail of a number with a fraction stands in front of separators and a suffix. -/
theorem lossless_of_parse_tailed :
    ∃ literal, parse ['1', '_', '0', '.', '5', 'a', 'b', '_', '_', 'u', '8'] = .ok literal ∧
      literal.unrecognizedSuffix = some ['a', 'b'] ∧
      Lossless ['1', '_', '0', '.', '5', 'a', 'b', '_', '_', 'u', '8'] literal := by
  have read : ∃ literal, parse ['1', '_', '0', '.', '5', 'a', 'b', '_', '_', 'u', '8'] = .ok literal ∧
      literal.unrecognizedSuffix = some ['a', 'b'] :=
    ⟨_, rfl, rfl⟩
  obtain ⟨literal, read, tail⟩ := read
  exact ⟨literal, read, tail, lossless_of_parse read⟩

end NumeralStyle.Literal
