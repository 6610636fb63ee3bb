import NumeralStyle.Proofs.Text.Column
import NumeralStyle.Proofs.Text.OneLine
import NumeralStyle.Text.Lines

/-! Lines by every conventional terminator against lines by line feeds. A text has one line for each
character that ends one, so more lines than line feeds where something else ends one of them. A place is
on the line of its number if nothing else does before it (`lineAt_append`), and otherwise that line is a
part of what comes before the place (`lineAt_of_otherEnds`). -/
namespace NumeralStyle.Text

/-! ## What ends a line -/

/-- Whether a character ends a line that no line feed ends. A carriage return before a line feed ends
no line. -/
def endsOtherwise (c : Char) (rest : Text) : Bool :=
  endsLine c && c != '\n' && !(c == '\r' && rest.head? == some '\n')

/-- The number of lines of a text that something else than a line feed ends. -/
def otherEnds : Text → Nat
  | [] => 0
  | c :: rest => otherEnds rest + if endsOtherwise c rest then 1 else 0

/-- Whether a line ends with a character. -/
def endsHere (c : Char) (rest : Text) : Bool := c == '\n' || endsOtherwise c rest

section

variable {c : Char} {front rest : Text}

theorem endsHere_feed (rest : Text) : endsHere '\n' rest = true := rfl

theorem endsOtherwise_of_plain (plain : endsLine c = false) (rest : Text) :
    endsOtherwise c rest = false := by
  rw [endsOtherwise, plain, Bool.false_and, Bool.false_and]

/-- What follows a text does not change where its lines end, unless it starts with a line feed. -/
theorem endsOtherwise_append (apart : rest.head? ≠ some '\n') (front : Text) :
    endsOtherwise c (front ++ rest) = endsOtherwise c front := by
  cases front with
  | nil => simp [endsOtherwise, apart]
  | cons d front => rfl

theorem firstLine_of_plain (plain : endsLine c = false) (rest : Text) :
    firstLine (c :: rest) = c :: firstLine rest := by
  simp [firstLine, plain]

theorem firstLine_of_ends (ends : endsLine c = true) (rest : Text) :
    firstLine (c :: rest) = terminator (c :: rest) := by
  simp [firstLine, ends]

theorem terminator_of_ne (other : ¬ (c = '\r' ∧ rest.head? = some '\n')) :
    terminator (c :: rest) = [c] := by
  unfold terminator
  split
  · rename_i same
    cases same
    exact absurd ⟨rfl, rfl⟩ other
  · rename_i same
    cases same
    rfl
  · rename_i same
    cases same

theorem lines_nil : lines [] = [] := by rw [lines, if_pos rfl]

theorem lines_of_ne_nil {text : Text} (filled : text ≠ []) :
    lines text = firstLine text :: lines (text.drop (firstLine text).length) := by
  rw [lines, if_neg filled]

/-- The lines of a text, character by character. -/
theorem lines_cons (c : Char) (rest : Text) :
    lines (c :: rest) =
      if endsHere c rest then [c] :: lines rest
      else
        match lines rest with
        | [] => [[c]]
        | first :: others => (c :: first) :: others := by
  rw [lines_of_ne_nil (List.cons_ne_nil c rest)]
  cases ends : endsLine c with
  | false =>
    have here : endsHere c rest = false := by
      rw [endsHere, endsOtherwise_of_plain ends, Bool.or_false, beq_eq_false_iff_ne]
      rintro rfl
      cases ends
    rw [if_neg (ne_true_of_eq_false here), firstLine_of_plain ends, List.length_cons, List.drop_succ_cons]
    cases rest with
    | nil =>
      rw [firstLine, List.takeWhile_nil, List.dropWhile_nil, terminator, List.drop_nil, lines_nil]
      rfl
    | cons d rest => rw [lines_of_ne_nil (List.cons_ne_nil d rest)]
  | true =>
    rw [firstLine_of_ends ends]
    by_cases pair : c = '\r' ∧ rest.head? = some '\n'
    · -- The two characters are one terminator, and the second alone would be one too.
      obtain ⟨rfl, feed⟩ := pair
      obtain ⟨behind, rfl⟩ := List.head?_eq_some_iff.mp feed
      rw [if_neg (by simp [endsHere, endsOtherwise]), lines_of_ne_nil (List.cons_ne_nil '\n' behind)]
      rfl
    · have here : endsHere c rest = true := by
        by_cases feed : c = '\n'
        · simp [endsHere, feed]
        · simpa [endsHere, endsOtherwise, ends, feed] using Classical.not_and_iff_not_or_not.mp pair
      rw [if_pos here, terminator_of_ne pair]
      rfl

theorem getElem?_lines_zero {text : Text} (filled : text ≠ []) :
    (lines text)[0]? = some (firstLine text) := by
  rw [lines_of_ne_nil filled, List.getElem?_cons_zero]

/-- A character that ends no line leaves the lines behind its own as they are. -/
theorem getElem?_lines_succ (inside : endsHere c rest = false) (number : Nat) :
    (lines (c :: rest))[number + 1]? = (lines rest)[number + 1]? := by
  rw [lines_cons, if_neg (ne_true_of_eq_false inside)]
  cases lines rest <;> rfl

/-! ## The line of a place -/

theorem endsHere_append (apart : rest.head? ≠ some '\n') (front : Text) :
    endsHere c (front ++ rest) = endsHere c front := by
  rw [endsHere, endsHere, endsOtherwise_append apart]

theorem otherEnds_eq_zero_cons (regular : otherEnds (c :: front) = 0) :
    otherEnds front = 0 ∧ endsOtherwise c front = false := by
  rw [otherEnds, Nat.add_eq_zero_iff] at regular
  exact ⟨regular.1, by simpa using regular.2⟩

/-- Where only line feeds end lines, a line without them has nothing that ends one. -/
theorem plain_of_regular (regular : otherEnds front = 0) (oneLine : '\n' ∉ front) :
    ∀ d ∈ front, endsLine d = false := by
  induction front with
  | nil => exact List.forall_mem_nil _
  | cons c front ih =>
    obtain ⟨behind, here⟩ := otherEnds_eq_zero_cons regular
    obtain ⟨noFeed, oneLine⟩ := not_or.mp (mt List.mem_cons.mpr oneLine)
    have first : front.head? ≠ some '\n' := fun starts => oneLine (List.mem_of_mem_head? starts)
    rw [List.forall_mem_cons]
    refine ⟨?_, ih behind oneLine⟩
    simpa [endsOtherwise, Ne.symm noFeed, first] using here

theorem plain_lastLine (regular : otherEnds front = 0) : ∀ d ∈ lastLine front, endsLine d = false := by
  induction front with
  | nil => exact List.forall_mem_nil _
  | cons c front ih =>
    by_cases feed : '\n' ∈ c :: front
    · rw [lastLine_cons (List.mem_cons.mp feed |>.imp_left Eq.symm)]
      exact ih (otherEnds_eq_zero_cons regular).1
    · rw [lastLine_of_not_mem feed]
      exact plain_of_regular regular feed

/-- Where only line feeds end lines before a place, the line of the place is that of its number. -/
theorem getElem?_lines_of_regular (regular : otherEnds front = 0) (filled : rest ≠ [])
    (apart : rest.head? ≠ some '\n') :
    (lines (front ++ rest))[front.count '\n']? = some (firstLine (lastLine front ++ rest)) := by
  induction front with
  | nil => exact getElem?_lines_zero filled
  | cons c front ih =>
    obtain ⟨behind, here⟩ := otherEnds_eq_zero_cons regular
    by_cases feed : c = '\n'
    · subst feed
      rw [List.cons_append, lines_cons, if_pos (endsHere_feed _), List.count_cons_self,
        List.getElem?_cons_succ, ih behind, lastLine_cons (.inl rfl)]
    · have inside : endsHere c (front ++ rest) = false := by
        rw [endsHere_append apart, endsHere, here, Bool.or_false, beq_eq_false_iff_ne]
        exact feed
      rw [List.count_cons_of_ne feed, List.cons_append]
      by_cases more : '\n' ∈ front
      · obtain ⟨number, count⟩ := Nat.exists_eq_add_one_of_ne_zero
          (Nat.ne_of_gt (List.count_pos_iff.mpr more))
        rw [count] at ih ⊢
        rw [getElem?_lines_succ inside, ih behind, lastLine_cons (.inr more)]
      · have oneLine : '\n' ∉ c :: front := by simp [Ne.symm feed, more]
        rw [List.count_eq_zero.mpr more, getElem?_lines_zero (List.cons_ne_nil _ _),
          lastLine_of_not_mem oneLine]
        rfl

/-- The lines that end before a place are those of what comes before it, and there are as many as there
are line feeds and other ends. -/
theorem exists_ended (front : Text) :
    ∃ ended left, front = ended.flatten ++ left ∧
      ended.length = front.count '\n' + otherEnds front ∧
      ∀ rest : Text, rest.head? ≠ some '\n' → lines (front ++ rest) = ended ++ lines (left ++ rest) := by
  induction front with
  | nil => exact ⟨[], [], rfl, rfl, fun rest _ => rfl⟩
  | cons c front ih =>
    obtain ⟨ended, left, rfl, size, split⟩ := ih
    have number : (c :: (ended.flatten ++ left)).count '\n' + otherEnds (c :: (ended.flatten ++ left)) =
        ended.length + if endsHere c (ended.flatten ++ left) then 1 else 0 := by
      rw [size, otherEnds, List.count_cons, endsHere]
      by_cases feed : c = '\n'
      · simp [feed, endsOtherwise]
        omega
      · simp [feed]
        omega
    rw [number]
    by_cases here : endsHere c (ended.flatten ++ left) = true
    · refine ⟨[c] :: ended, left, rfl, by rw [if_pos here, List.length_cons], fun rest apart => ?_⟩
      rw [List.cons_append, lines_cons, endsHere_append apart, if_pos here, split rest apart,
        List.cons_append]
    · rw [if_neg here]
      cases ended with
      | nil => exact ⟨[], c :: left, rfl, rfl, fun rest _ => rfl⟩
      | cons first others =>
        refine ⟨(c :: first) :: others, left, rfl, rfl, fun rest apart => ?_⟩
        rw [List.cons_append, lines_cons, endsHere_append apart, if_neg here, split rest apart]
        rfl

/-- The body of the line of a place, where only line feeds end lines before it. -/
theorem lineAt_append (regular : otherEnds front = 0) (filled : rest ≠ [])
    (apart : rest.head? ≠ some '\n') :
    lineAt (front ++ rest) (1 + front.count '\n' : Nat) = lineBody (firstLine (lastLine front ++ rest)) := by
  have number : ((1 + front.count '\n' : Nat) - 1 : Int).toNat = front.count '\n' := by omega
  rw [lineAt, if_pos (by omega), number, getElem?_lines_of_regular regular filled apart]
  rfl

/-- Where something else ends a line before a place, the line of its number is one of what comes before
it. -/
theorem lineAt_of_otherEnds (other : 0 < otherEnds front) (apart : rest.head? ≠ some '\n') :
    lineAt (front ++ rest) (1 + front.count '\n' : Nat) = lineAt front (1 + front.count '\n' : Nat) := by
  obtain ⟨ended, left, -, size, split⟩ := exists_ended front
  have inside : front.count '\n' < ended.length := by omega
  have whole := split [] (by simp)
  rw [List.append_nil] at whole
  have number : ((1 + front.count '\n' : Nat) - 1 : Int).toNat = front.count '\n' := by omega
  rw [lineAt, lineAt, number, split rest apart, whole, List.getElem?_append_left inside,
    List.getElem?_append_left inside]

/-! ## Bodies of lines -/

theorem getLast?_append_trimEnd (front rest : Text)
    (kept : front.getLast? ≠ some c ∨ trimEnd c rest ≠ []) :
    (front ++ trimEnd c rest).getLast? ≠ some c := by
  rw [List.getLast?_append]
  intro ends
  rcases Option.or_eq_some_iff.mp ends with behind | ⟨none, before⟩
  · exact getLast?_trimEnd c rest behind
  · exact kept.elim (fun last => last before) fun filled => filled (List.getLast?_eq_none_iff.mp none)

/-- What does not end with the character stays as it is before whatever is trimmed. -/
theorem trimEnd_append (last : front.getLast? ≠ some c) (rest : Text) :
    trimEnd c (front ++ rest) = front ++ trimEnd c rest := by
  obtain ⟨count, split⟩ := trimEnd_append_replicate c rest
  have run := trimEnd_append_run (getLast?_append_trimEnd front rest (.inl last)) count
  rwa [List.append_assoc, ← split] at run

theorem trimEnd_of_not_mem (none : c ∉ front) : trimEnd c front = front := by
  have run := trimEnd_append_run (fun ends => none (List.mem_of_getLast? ends)) 0
  rwa [List.replicate_zero, List.append_nil] at run

/-- A text is trimmed to what a part of it is trimmed to exactly if all behind that part is trimmed. -/
theorem trimEnd_append_eq_iff : trimEnd c (front ++ rest) = trimEnd c front ↔ ∀ d ∈ rest, d = c := by
  obtain ⟨more, split⟩ := trimEnd_append_replicate c front
  constructor
  · intro same
    obtain ⟨count, behind⟩ := trimEnd_append_replicate c rest
    by_cases none : trimEnd c rest = []
    · rw [none, List.nil_append] at behind
      rw [behind]
      exact fun d member => List.eq_of_mem_replicate member
    · -- The part that is left over would be trimmed to something longer than the front.
      have run := trimEnd_append_run (getLast?_append_trimEnd front rest (.inr none)) count
      rw [List.append_assoc, ← behind, same] at run
      have long := List.length_pos_iff.mpr none
      have whole := congrArg List.length split
      have size := congrArg List.length run
      rw [List.length_append] at whole size
      omega
  · intro all
    have run := List.eq_replicate_iff.mpr ⟨rfl, all⟩
    have trimmed := trimEnd_append_run (getLast?_trimEnd c front) (more + rest.length)
    rwa [← List.replicate_append_replicate, ← List.append_assoc, ← split, ← run] at trimmed

theorem firstLine_append (plain : ∀ d ∈ front, endsLine d = false) (rest : Text) :
    firstLine (front ++ rest) = front ++ firstLine rest := by
  have inside : ∀ d ∈ front, (!endsLine d) = true := fun d member => by rw [plain d member, Bool.not_false]
  rw [firstLine, List.takeWhile_append_of_pos inside, List.dropWhile_append_of_pos inside,
    List.append_assoc]
  rfl

/-- What does not end a line stays as it is before the rest of the body. -/
theorem lineBody_append (plain : ∀ d ∈ front, endsLine d = false) (rest : Text) :
    lineBody (front ++ rest) = front ++ lineBody rest := by
  have last {d : Char} (ends : endsLine d = true) : front.getLast? ≠ some d := by
    intro same
    have inside := plain d (List.mem_of_getLast? same)
    rw [ends] at inside
    cases inside
  rw [lineBody, trimEnd_append (last rfl), trimEnd_append (last rfl)]
  rfl

theorem feed_not_mem_lineBody_terminator (text : Text) : '\n' ∉ lineBody (terminator text) := by
  unfold terminator
  split
  · decide
  · rename_i c _ _
    by_cases feed : c = '\n'
    · subst feed
      decide
    · have none : '\n' ∉ [c] := by simpa using Ne.symm feed
      rw [lineBody, trimEnd_of_not_mem none]
      exact feed_not_mem_trimEnd none
  · decide

theorem mem_lines {text line : Text} (among : line ∈ lines text) : ∃ part, line = firstLine part := by
  induction text using lines.induct with
  | case1 => simp [lines_nil] at among
  | case2 text filled ih =>
    rw [lines_of_ne_nil filled] at among
    rcases List.mem_cons.mp among with first | behind
    · exact ⟨text, first⟩
    · exact ih behind

/-- A line is shown without a line feed. -/
theorem feed_not_mem_lineAt (text : Text) (number : Int) : '\n' ∉ lineAt text number := by
  unfold lineAt
  split
  · cases found : (lines text)[(number - 1).toNat]? with
    | none => exact List.not_mem_nil
    | some line =>
      obtain ⟨part, rfl⟩ := mem_lines (List.mem_of_getElem? found)
      have plain : ∀ c ∈ part.takeWhile (!endsLine ·), endsLine c = false := by
        intro c member
        simpa using List.mem_takeWhile_imp member
      rw [Option.map_some, Option.getD_some, firstLine, lineBody_append plain, List.mem_append, not_or]
      refine ⟨fun member => ?_, feed_not_mem_lineBody_terminator _⟩
      have inside := plain '\n' member
      cases inside
  · exact List.not_mem_nil

/-- What a line has behind the first character that ends a line. -/
def pastEnd (line : Text) : Text := (line.dropWhile (!endsLine ·)).tail

theorem lineBody_firstLine_of_ends (ends : endsLine c = true) :
    lineBody (firstLine (c :: rest)) = trimEnd '\r' ((c :: rest).takeWhile (· != '\n')) ↔
      ∀ d ∈ pastEnd ((c :: rest).takeWhile (· != '\n')), d = '\r' := by
  rw [firstLine_of_ends ends]
  by_cases feed : c = '\n'
  · subst feed
    exact iff_of_true rfl (List.forall_mem_nil _)
  · rw [List.takeWhile_cons_of_pos (by simpa using feed), pastEnd,
      List.dropWhile_cons_of_neg (by simp [ends]), List.tail_cons]
    by_cases pair : c = '\r' ∧ rest.head? = some '\n'
    · obtain ⟨rfl, first⟩ := pair
      obtain ⟨behind, rfl⟩ := List.head?_eq_some_iff.mp first
      exact iff_of_true rfl (List.forall_mem_nil _)
    · have body : lineBody [c] = trimEnd '\r' [c] := by
        have none : '\n' ∉ [c] := by
          rw [List.mem_singleton]
          exact Ne.symm feed
        rw [lineBody, trimEnd_of_not_mem none]
      rw [terminator_of_ne pair, body, eq_comm, ← List.singleton_append, trimEnd_append_eq_iff]

/-- The body of the first line is what comes before the first line feed, without the carriage returns at
its end, exactly if nothing but those comes behind the first character that ends a line. -/
theorem lineBody_firstLine_eq_iff (text : Text) :
    lineBody (firstLine text) = trimEnd '\r' (text.takeWhile (· != '\n')) ↔
      ∀ c ∈ pastEnd (text.takeWhile (· != '\n')), c = '\r' := by
  induction text with
  | nil => exact iff_of_true rfl (List.forall_mem_nil _)
  | cons c rest ih =>
    cases ends : endsLine c with
    | true => exact lineBody_firstLine_of_ends ends
    | false =>
      have plain : ∀ d ∈ [c], endsLine d = false := by simpa using ends
      have feed : c ≠ '\n' := by
        rintro rfl
        cases ends
      have last : [c].getLast? ≠ some '\r' := by
        rw [List.getLast?_singleton, ne_eq, Option.some.injEq]
        rintro rfl
        cases ends
      have body : lineBody (c :: firstLine rest) = c :: lineBody (firstLine rest) := lineBody_append plain _
      have trimmed (line : Text) : trimEnd '\r' (c :: line) = c :: trimEnd '\r' line :=
        trimEnd_append last line
      rw [firstLine_of_plain ends, body, List.takeWhile_cons_of_pos (by simpa using feed), trimmed, pastEnd,
        List.dropWhile_cons_of_pos (by simp [ends]), List.cons_inj_right]
      exact ih

/-! ## The line of a part -/

/-- The line that a part of a text is on, from line feed to line feed, without the carriage returns at
its end. -/
def lineOf (front part rest : Text) : Text :=
  trimEnd '\r' (lastLine front ++ part ++ rest.takeWhile (· != '\n'))

/-- The line of the number of a part is the one that the part is on exactly if only line feeds end lines
before the part, and nothing but carriage returns comes behind what ends its line. Otherwise a line
before the part may still read the same. -/
theorem lineAt_eq_lineOf_iff {part : Text} (plain : ∀ d ∈ part, endsLine d = false) (filled : part ≠ []) :
    lineAt (front ++ part ++ rest) (1 + front.count '\n' : Nat) = lineOf front part rest ↔
      (otherEnds front = 0 ∧ ∀ d ∈ pastEnd (rest.takeWhile (· != '\n')), d = '\r') ∨
        (0 < otherEnds front ∧
          lineAt front (1 + front.count '\n' : Nat) = lineOf front part rest) := by
  have apart : (part ++ rest).head? ≠ some '\n' := by
    obtain ⟨first, behind, rfl⟩ := List.exists_cons_of_ne_nil filled
    rintro ⟨⟩
    cases plain '\n' List.mem_cons_self
  rw [List.append_assoc]
  rcases Nat.eq_zero_or_pos (otherEnds front) with regular | other
  · have before : ∀ d ∈ lastLine front ++ part, endsLine d = false :=
      List.forall_mem_append.mpr ⟨plain_lastLine regular, plain⟩
    have last : (lastLine front ++ part).getLast? ≠ some '\r' := by
      intro same
      have inside := before '\r' (List.mem_of_getLast? same)
      cases inside
    rw [lineAt_append regular (List.append_ne_nil_of_left_ne_nil filled rest) apart, lineOf,
      ← List.append_assoc, firstLine_append before, lineBody_append before, trimEnd_append last,
      List.append_cancel_left_eq, lineBody_firstLine_eq_iff]
    simp [regular]
  · rw [lineAt_of_otherEnds other apart]
    simp [other, Nat.ne_of_gt other]

end

end NumeralStyle.Text
