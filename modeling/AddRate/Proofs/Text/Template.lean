import AddRate.Text.Template
import Mathlib.Data.List.Infix

/-!
# Texts with placeholders

The occurrences of a placeholder cut a text into parts, and substitution joins these parts again
with the value between them. Where no end of the placeholder is also a beginning of it, occurrences
cannot overlap, so a text has only one such cut. A value that shares no character with the
placeholder completes no new occurrence.
-/

namespace AddRate.Text

variable {placeholder value text part : List Char} {parts : List (List Char)} {c : Char}

/-! ## Cuts -/

/-- The parts are what stands before, between and behind the occurrences of the placeholder. -/
structure IsCut (placeholder : List Char) (parts : List (List Char)) (text : List Char) :
    Prop where
  ne_nil : parts ≠ []
  intercalate_eq : placeholder.intercalate parts = text
  plain : ∀ part ∈ parts, ¬placeholder <:+: part

theorem intercalate_modifyHead (nonempty : parts ≠ []) (c : Char) :
    value.intercalate (parts.modifyHead (c :: ·)) = c :: value.intercalate parts := by
  cases parts with
  | nil => exact absurd rfl nonempty
  | cons part rest => exact List.intercalate_cons_cons_left

theorem isPrefix_intercalate (value part : List Char) (rest : List (List Char)) :
    part <+: value.intercalate (part :: rest) := by
  cases rest with
  | nil => simp
  | cons next rest => simp

namespace IsCut

/-- A text without the placeholder is its only part. -/
theorem single (plain : ¬placeholder <:+: text) : IsCut placeholder [text] text where
  ne_nil := by simp
  intercalate_eq := by simp
  plain := by simpa using plain

/-- An occurrence in front of a text has nothing before it. -/
theorem occurrence (cut : IsCut placeholder parts text) (nonempty : placeholder ≠ []) :
    IsCut placeholder ([] :: parts) (placeholder ++ text) where
  ne_nil := by simp
  intercalate_eq := by simp [List.intercalate_cons_of_ne_nil cut.ne_nil, cut.intercalate_eq]
  plain := by simpa [nonempty] using cut.plain

/-- A character with which no occurrence starts belongs to the first part. -/
theorem cons (cut : IsCut placeholder parts text) (differs : ¬placeholder <+: c :: text) :
    IsCut placeholder (parts.modifyHead (c :: ·)) (c :: text) where
  ne_nil := by simpa using cut.ne_nil
  intercalate_eq := by rw [intercalate_modifyHead cut.ne_nil, cut.intercalate_eq]
  plain := by
    cases parts with
    | nil => exact absurd rfl cut.ne_nil
    | cons first rest =>
        have start : first <+: text := by
          rw [← cut.intercalate_eq]
          exact isPrefix_intercalate placeholder first rest
        have plainFirst : ¬placeholder <:+: c :: first := by
          rw [List.infix_cons_iff, not_or]
          constructor
          · intro occurs
            apply differs
            exact occurs.trans (List.cons_prefix_cons.mpr ⟨rfl, start⟩)
          · exact cut.plain first List.mem_cons_self
        intro part member
        rcases List.mem_cons.mp member with rfl | member
        · exact plainFirst
        · exact cut.plain part (List.mem_cons_of_mem _ member)

end IsCut

/-! ## Cutting from left to right -/

/-- The parts of a text, found from left to right. -/
def cutAt (placeholder : List Char) : List Char → List (List Char)
  | [] => [[]]
  | c :: rest =>
    if placeholder.isPrefixOf (c :: rest) then
      [] :: cutAt placeholder (rest.drop (placeholder.length - 1))
    else
      (cutAt placeholder rest).modifyHead (c :: ·)
termination_by text => text.length
decreasing_by
  · simp only [List.length_drop, List.length_cons]; omega
  · simp

/-- A text that starts with the placeholder goes on behind it. -/
theorem cons_eq_append_drop (nonempty : placeholder ≠ []) {rest : List Char}
    (occurs : placeholder.isPrefixOf (c :: rest) = true) :
    c :: rest = placeholder ++ rest.drop (placeholder.length - 1) := by
  cases placeholder with
  | nil => exact absurd rfl nonempty
  | cons first others =>
      have split := List.prefix_iff_eq_append.mp (List.isPrefixOf_iff_prefix.mp occurs)
      simpa using split.symm

theorem isCut_cutAt (nonempty : placeholder ≠ []) (text : List Char) :
    IsCut placeholder (cutAt placeholder text) text := by
  fun_induction cutAt placeholder text with
  | case1 => exact .single (by simpa using nonempty)
  | case2 c rest occurs ih =>
      rw [cons_eq_append_drop nonempty occurs]
      exact ih.occurrence nonempty
  | case3 c rest differs ih => exact ih.cons (by simpa using differs)

/-- Substitution joins the parts of a text with the value between them. -/
theorem substituteChars_eq_intercalate (nonempty : placeholder ≠ []) (value text : List Char) :
    substituteChars placeholder value text = value.intercalate (cutAt placeholder text) := by
  fun_induction substituteChars placeholder value text with
  | case1 => simp [cutAt]
  | case2 c rest occurs ih =>
      rw [cutAt, if_pos occurs, List.intercalate_cons_of_ne_nil (isCut_cutAt nonempty _).ne_nil, ih,
        List.nil_append]
  | case3 c rest differs ih =>
      rw [cutAt, if_neg differs, intercalate_modifyHead (isCut_cutAt nonempty _).ne_nil, ih]

/-! ## Only one cut -/

/-- No end of the text, but the whole of it, is a beginning of it. -/
def Unbordered (text : List Char) : Prop :=
  ∀ count < text.length, 0 < count → ¬text.drop count <+: text

/-- No occurrence that starts in front of another one ends within it. -/
theorem not_isPrefix_append (unbordered : Unbordered placeholder) (nonempty : part ≠ [])
    (plain : ¬placeholder <:+: part) (behind : List Char) :
    ¬placeholder <+: part ++ (placeholder ++ behind) := by
  intro occurs
  rcases List.prefix_or_prefix_of_prefix occurs (List.prefix_append part _) with inside | across
  · exact plain inside.isInfix
  · -- What lies within the other occurrence would be an end and a beginning of the placeholder.
    obtain ⟨last, rfl⟩ := across
    have short : part.length < (part ++ last).length := by
      apply Nat.lt_of_not_le
      intro long
      exact plain ((List.prefix_append part last).eq_of_length_le long ▸ List.infix_rfl)
    have begins : last <+: part ++ last ++ behind :=
      (List.prefix_append_right_inj part).mp occurs
    apply unbordered part.length short (List.length_pos_iff.mpr nonempty)
    rw [List.drop_left]
    exact List.prefix_of_prefix_length_le begins (List.prefix_append _ behind) (by simp)

theorem cutAt_of_not_isInfix (plain : ¬placeholder <:+: part) : cutAt placeholder part = [part] := by
  induction part with
  | nil => simp [cutAt]
  | cons c rest ih =>
      rw [List.infix_cons_iff, not_or] at plain
      rw [cutAt, if_neg (by simpa using plain.1), ih plain.2]
      rfl

theorem cutAt_occurrence (nonempty : placeholder ≠ []) (text : List Char) :
    cutAt placeholder (placeholder ++ text) = [] :: cutAt placeholder text := by
  cases placeholder with
  | nil => exact absurd rfl nonempty
  | cons first others =>
      have occurs : (first :: others).isPrefixOf (first :: (others ++ text)) = true := by simp
      rw [List.cons_append, cutAt, if_pos occurs]
      simp

/-- The first part of a text ends where the first occurrence starts. -/
theorem cutAt_part_append (nonempty : placeholder ≠ []) (unbordered : Unbordered placeholder)
    (plain : ¬placeholder <:+: part) (text : List Char) :
    cutAt placeholder (part ++ (placeholder ++ text)) = part :: cutAt placeholder text := by
  induction part with
  | nil => exact cutAt_occurrence nonempty text
  | cons c rest ih =>
      have differs := not_isPrefix_append unbordered (List.cons_ne_nil c rest) plain text
      rw [List.infix_cons_iff, not_or] at plain
      rw [List.cons_append] at differs ⊢
      rw [cutAt, if_neg (by simpa using differs), ih plain.2]
      rfl

/-- However a text is cut at the occurrences of a placeholder, the parts are the same. -/
theorem IsCut.eq_cutAt (cut : IsCut placeholder parts text) (nonempty : placeholder ≠ [])
    (unbordered : Unbordered placeholder) : parts = cutAt placeholder text := by
  obtain ⟨someParts, rfl, plain⟩ := cut
  induction parts with
  | nil => exact absurd rfl someParts
  | cons part rest ih =>
      have plainPart := plain part List.mem_cons_self
      cases rest with
      | nil => rw [List.intercalate_singleton, cutAt_of_not_isInfix plainPart]
      | cons next rest =>
          have others := ih (by simp) fun other member => plain other (List.mem_cons_of_mem _ member)
          rw [List.intercalate_cons_cons, List.append_assoc,
            cutAt_part_append nonempty unbordered plainPart, ← others]

/-! ## What substitution leaves -/

/-- Nothing occurs across a character that it does not have. -/
theorem isInfix_append_cons {before behind : List Char} (absent : c ∉ part)
    (occurs : part <:+: before ++ c :: behind) : part <:+: before ∨ part <:+: behind := by
  have empty : ∀ {start : List Char}, c ∉ start → start <+: c :: behind → start = [] := by
    intro start without begins
    cases start with
    | nil => rfl
    | cons first others =>
        obtain ⟨rfl, -⟩ := List.cons_prefix_cons.mp begins
        exact absurd List.mem_cons_self without
  rcases List.infix_append_iff.mp occurs with left | right | ⟨front, last, rfl, ends, begins⟩
  · exact .inl left
  · rcases List.infix_cons_iff.mp right with begins | later
    · simp [empty absent begins]
    · exact .inr later
  · rw [empty (fun member => absent (List.mem_append_right _ member)) begins, List.append_nil]
    exact .inl ends.isInfix

/-- Nothing occurs across a value of which it has no character. -/
theorem not_isInfix_append_append {before behind : List Char} (someValue : value ≠ [])
    (absent : ∀ c ∈ value, c ∉ part) (left : ¬part <:+: before) (right : ¬part <:+: behind) :
    ¬part <:+: before ++ value ++ behind := by
  induction value generalizing before with
  | nil => exact absurd rfl someValue
  | cons c rest ih =>
      intro occurs
      rw [List.append_assoc, List.cons_append] at occurs
      rcases isInfix_append_cons (absent c List.mem_cons_self) occurs with early | late
      · exact left early
      · cases rest with
        | nil => exact right late
        | cons next rest =>
            have partNonempty : ¬part <:+: [] := fun empty => left (empty.trans (List.nil_infix))
            exact ih (by simp) (fun d member => absent d (List.mem_cons_of_mem _ member))
              partNonempty late

theorem IsCut.not_isInfix_intercalate (cut : IsCut placeholder parts text) (someValue : value ≠ [])
    (absent : ∀ c ∈ value, c ∉ placeholder) : ¬placeholder <:+: value.intercalate parts := by
  obtain ⟨someParts, -, plain⟩ := cut
  induction parts with
  | nil => exact absurd rfl someParts
  | cons part rest ih =>
      have plainPart := plain part List.mem_cons_self
      cases rest with
      | nil => simpa using plainPart
      | cons next rest =>
          rw [List.intercalate_cons_cons]
          exact not_isInfix_append_append someValue absent plainPart
            (ih (by simp) fun other member => plain other (List.mem_cons_of_mem _ member))

/-! ## Different values -/

theorem length_intercalate_cons (value part : List Char) (rest : List (List Char)) :
    (value.intercalate (part :: rest)).length =
      (part :: rest).flatten.length + rest.length * value.length := by
  induction rest generalizing part with
  | nil => simp
  | cons next rest ih =>
      rw [List.intercalate_cons_cons, List.length_append, ih]
      simp [Nat.add_mul]
      omega

/-- Joining at least two parts with a value shows which value it was. -/
theorem eq_of_intercalate_eq {other : List Char} {first second : List Char}
    {rest : List (List Char)}
    (same : value.intercalate (first :: second :: rest) =
      other.intercalate (first :: second :: rest)) : value = other := by
  have lengths := congrArg List.length same
  rw [length_intercalate_cons, length_intercalate_cons, List.length_cons] at lengths
  have lengthEq : value.length = other.length :=
    Nat.eq_of_mul_eq_mul_left (Nat.succ_pos rest.length) (Nat.add_left_cancel lengths)
  rw [List.intercalate_cons_cons, List.intercalate_cons_cons, List.append_assoc,
    List.append_assoc] at same
  exact (List.append_inj (List.append_cancel_left same) lengthEq).1

end AddRate.Text
