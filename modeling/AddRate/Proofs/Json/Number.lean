import AddRate.Json.Number
import AddRate.Json.Token
import Mathlib.Tactic.SplitIfs

/-!
# Number literals

A literal is a number if the lexer stays in its number state from the first character to the last
and may stop there. The literals of counts are numbers, and so are those of all finite doubles, at
whatever place their shortest decimal has its point.
-/

namespace AddRate.Binary.Double

/-! ## Digits of shortest decimals -/

variable {x : Double}

/-- A double that is not zero has a significand. -/
theorem significand_pos (nonzero : x.magnitude ≠ 0) : 0 < binary64.significand x.magnitude := by
  have bounded : x.magnitude < 2 ^ 63 := Nat.mod_lt _ (by decide)
  unfold Format.significand
  by_cases subnormal : binary64.exponentField x.magnitude = 0
  · rw [if_pos subnormal]
    have field : x.magnitude / 2 ^ 52 % 2 ^ 11 = 0 := subnormal
    show 0 < x.magnitude % 2 ^ 52
    omega
  · rw [if_neg subnormal]
    exact Nat.add_pos_left (Nat.pow_pos (by decide)) _

/-- The values that round to a double do not reach down to zero. -/
theorem rounding_lower_pos (nonzero : x.magnitude ≠ 0) : 0 < x.rounding.lower := by
  have significand := significand_pos nonzero
  have step : 0 < Nat.pow 2 (binary64.surplus x.magnitude) := Nat.pow_pos (by decide)
  have units : Nat.pow 2 (binary64.surplus x.magnitude) ≤ x.units :=
    Nat.le_mul_of_pos_left _ significand
  unfold rounding
  dsimp only
  split_ifs <;> omega

/-- The first of two candidates that passes a test has passed it. -/
theorem passes_of_candidates {inside : Nat → Bool} {first second : Nat} {exponent : Int}
    {decimal : Decimal}
    (found : (if inside first then some (⟨first, exponent⟩ : Decimal)
      else if inside second then some ⟨second, exponent⟩ else none) = some decimal) :
    inside decimal.digits = true := by
  split_ifs at found with passes passes
  · cases found
    exact passes
  · cases found
    exact passes

/-- No decimal on any grid is zero. -/
theorem Rounding.digits_ne_zero_of_onGrid? {tie : Tie} {interval : Rounding}
    (positive : 0 < interval.lower) {exponent : Int} {decimal : Decimal}
    (found : interval.onGrid? tie exponent = some decimal) : decimal.digits ≠ 0 := by
  have lower : 0 < interval.lower * Nat.pow 10 (-exponent).toNat :=
    Nat.mul_pos positive (Nat.pow_pos (by decide))
  intro zero
  unfold onGrid? at found
  extract_lets grid scale lowest exact upper inside below nearest other at found
  have passes : inside decimal.digits = true := passes_of_candidates found
  have above : lowest ≤ 0 * grid := by
    rw [zero] at passes
    unfold inside at passes
    split at passes
    · exact of_decide_eq_true (Bool.and_eq_true_iff.mp passes).1
    · exact Nat.le_of_lt (of_decide_eq_true (Bool.and_eq_true_iff.mp passes).1)
  rw [Nat.zero_mul] at above
  exact absurd above (Nat.not_le_of_lt lower)

/-- The shortest decimal of a double that is not zero is no zero with places. -/
theorem exponent_shortest_eq_zero {tie : Tie} (nonzero : x.magnitude ≠ 0) :
    (x.shortest tie).digits = 0 → (x.shortest tie).exponent = 0 := by
  intro zero
  -- A decimal on a grid is never zero, so this one stands for an empty search.
  unfold shortest at zero ⊢
  dsimp only at zero ⊢
  cases found : (List.range 20).findSome? fun (depth : Nat) =>
      x.rounding.onGrid? tie (x.topExponent - depth) with
  | none => rfl
  | some decimal =>
      rw [found] at zero
      obtain ⟨depth, -, onGrid⟩ := List.exists_of_findSome?_eq_some found
      exact absurd zero (Rounding.digits_ne_zero_of_onGrid? (rounding_lower_pos nonzero) onGrid)

end AddRate.Binary.Double

namespace AddRate.Json

open Binary

/-! ## Phases -/

namespace NumberPhase

/-- The phase after more characters, if the number goes on with all of them. -/
def run? (phase : NumberPhase) (more : List Char) : Option NumberPhase :=
  more.foldlM next? phase

@[simp] theorem run?_nil (phase : NumberPhase) : phase.run? [] = some phase := rfl

@[simp] theorem run?_cons (phase : NumberPhase) (c : Char) (more : List Char) :
    phase.run? (c :: more) = (phase.next? c).bind (·.run? more) := rfl

@[simp] theorem run?_append (phase : NumberPhase) (first second : List Char) :
    phase.run? (first ++ second) = (phase.run? first).bind (·.run? second) :=
  List.foldlM_append

/-- A phase that goes on with digits does so with any number of them. -/
theorem run?_digits (phase : NumberPhase)
    (stays : ∀ c, c.isDigit = true → phase.next? c = some phase)
    {digits : List Char} (isDigit : ∀ c ∈ digits, c.isDigit = true) :
    phase.run? digits = some phase := by
  induction digits with
  | nil => rfl
  | cons c rest ih =>
      rw [run?_cons, stays c (isDigit c List.mem_cons_self), Option.bind_some]
      exact ih fun d member => isDigit d (List.mem_cons_of_mem _ member)

/-- Where only a digit may follow, at least one has to. -/
theorem run?_digits_of_ne_nil (phase next : NumberPhase)
    (goesOn : ∀ c, c.isDigit = true → phase.next? c = some next)
    (stays : ∀ c, c.isDigit = true → next.next? c = some next) {digits : List Char}
    (nonempty : digits ≠ []) (isDigit : ∀ c ∈ digits, c.isDigit = true) :
    phase.run? digits = some next := by
  cases digits with
  | nil => exact absurd rfl nonempty
  | cons c rest =>
      rw [run?_cons, goesOn c (isDigit c List.mem_cons_self), Option.bind_some]
      exact run?_digits next stays fun d member => isDigit d (List.mem_cons_of_mem _ member)

/-- No number goes on with the end of a line. -/
theorem next?_newline (phase : NumberPhase) : phase.next? '\n' = none := by
  cases phase <;> rfl

theorem newline_notMem_of_run? {phase last : NumberPhase} {more : List Char}
    (runs : phase.run? more = some last) : '\n' ∉ more := by
  induction more generalizing phase with
  | nil => exact List.not_mem_nil
  | cons c rest ih =>
      obtain ⟨next, goesOn, runs⟩ := Option.bind_eq_some_iff.mp runs
      intro member
      rcases List.mem_cons.mp member with rfl | member
      · rw [next?_newline] at goesOn
        cases goesOn
      · exact ih runs member

end NumberPhase

/-! ## Literals -/

/-- The literal of a number without a sign. -/
def IsSize (size : List Char) : Prop :=
  ∃ last, NumberPhase.sign.run? size = some last ∧ last.complete = true

/-- The literal of a number: a size, which may have a minus sign before it. -/
inductive IsNumber : List Char → Prop where
  | positive {size : List Char} (isSize : IsSize size) : IsNumber size
  | negative {size : List Char} (isSize : IsSize size) : IsNumber ('-' :: size)

theorem IsSize.newline_notMem {size : List Char} (isSize : IsSize size) : '\n' ∉ size := by
  obtain ⟨last, runs, -⟩ := isSize
  exact NumberPhase.newline_notMem_of_run? runs

/-- A literal lies within one line. -/
theorem IsNumber.newline_notMem {literal : List Char} (isNumber : IsNumber literal) :
    '\n' ∉ literal := by
  cases isNumber with
  | positive isSize => exact isSize.newline_notMem
  | negative isSize =>
      intro member
      rcases List.mem_cons.mp member with minus | member
      · exact absurd minus (by decide)
      · exact isSize.newline_notMem member

/-- Digits that start with none of zero. -/
def IsWhole (digits : List Char) : Prop :=
  ∃ first rest, digits = first :: rest ∧ NumberPhase.sign.next? first = some .whole ∧
    ∀ c ∈ rest, c.isDigit = true

namespace IsWhole

variable {digits : List Char}

theorem run? (isWhole : IsWhole digits) : NumberPhase.sign.run? digits = some .whole := by
  obtain ⟨first, rest, rfl, starts, isDigit⟩ := isWhole
  rw [NumberPhase.run?_cons, starts, Option.bind_some]
  exact NumberPhase.run?_digits .whole (fun _ digit => if_pos digit) isDigit

theorem append (isWhole : IsWhole digits) {more : List Char}
    (isDigit : ∀ c ∈ more, c.isDigit = true) : IsWhole (digits ++ more) := by
  obtain ⟨first, rest, rfl, starts, restDigits⟩ := isWhole
  refine ⟨first, rest ++ more, rfl, starts, ?_⟩
  intro c member
  rcases List.mem_append.mp member with before | behind
  · exact restDigits c before
  · exact isDigit c behind

theorem take (isWhole : IsWhole digits) {count : Nat} (positive : 0 < count) :
    IsWhole (digits.take count) := by
  obtain ⟨first, rest, rfl, starts, isDigit⟩ := isWhole
  obtain ⟨pred, rfl⟩ := Nat.exists_eq_succ_of_ne_zero (Nat.ne_of_gt positive)
  exact ⟨first, rest.take pred, rfl, starts,
    fun c member => isDigit c (List.mem_of_mem_take member)⟩

end IsWhole

/-! ## Counts -/

theorem isDigit_of_mem_toDigits (count : Nat) : ∀ c ∈ Nat.toDigits 10 count, c.isDigit = true :=
  fun _ => Nat.isDigit_of_mem_toDigits (by decide) (by decide)

theorem isWhole_toDigits {count : Nat} (positive : count ≠ 0) :
    IsWhole (Nat.toDigits 10 count) := by
  induction count using Nat.strongRecOn with
  | ind count ih =>
    rcases Nat.lt_or_ge count 10 with small | large
    · have starts : ∀ digit < 10, digit ≠ 0 →
          NumberPhase.sign.next? digit.digitChar = some .whole := by decide
      rw [Nat.toDigits_of_lt_base small]
      exact ⟨_, [], rfl, starts count small positive, by simp⟩
    · rw [Nat.toDigits_of_base_le (by decide) large]
      refine (ih (count / 10) (by omega) (by omega)).append ?_
      intro c member
      rw [List.mem_singleton.mp member, Nat.isDigit_digitChar, decide_eq_true_iff]
      exact Nat.mod_lt _ (by decide)

theorem isNumber_toDigits (count : Nat) : IsNumber (Nat.toDigits 10 count) := by
  by_cases zero : count = 0
  · subst zero
    exact .positive ⟨.zero, rfl, rfl⟩
  · exact .positive ⟨.whole, (isWhole_toDigits zero).run?, rfl⟩

/-! ## Decimals -/

theorem isDigit_of_mem_replicate (count : Nat) :
    ∀ c ∈ List.replicate count '0', c.isDigit = true := by
  intro c member
  rw [(List.mem_replicate.mp member).2]
  rfl

/-- An exponent ends a number. -/
theorem run?_exponentChars {phase : NumberPhase} (mark : phase.next? 'e' = some .mark)
    (exponent : Int) : phase.run? (exponentChars exponent) = some .exponent := by
  have digits : NumberPhase.markSign.run? (Nat.toDigits 10 exponent.natAbs) = some .exponent :=
    NumberPhase.run?_digits_of_ne_nil .markSign .exponent (fun _ digit => if_pos digit)
      (fun _ digit => if_pos digit) Nat.toDigits_ne_nil (isDigit_of_mem_toDigits _)
  unfold exponentChars
  rw [NumberPhase.run?_cons, mark, Option.bind_some, NumberPhase.run?_cons]
  by_cases negative : exponent < 0
  · rw [if_pos negative]
    exact digits
  · rw [if_neg negative]
    exact digits

/-- Behind a point stands at least one digit. -/
theorem run?_point {phase : NumberPhase} (point : phase.next? '.' = some .point)
    {digits : List Char} (nonempty : digits ≠ []) (isDigit : ∀ c ∈ digits, c.isDigit = true) :
    phase.run? ('.' :: digits) = some .fraction := by
  rw [NumberPhase.run?_cons, point, Option.bind_some]
  exact NumberPhase.run?_digits_of_ne_nil .point .fraction (fun _ digit => if_pos digit)
    (fun _ digit => if_pos digit) nonempty isDigit

theorem isSize_pointed_append_exponentChars {digits : List Char} (isWhole : IsWhole digits)
    (exponent : Int) : IsSize (pointed digits ++ exponentChars exponent) := by
  refine ⟨.exponent, ?_, rfl⟩
  obtain ⟨first, rest, rfl, starts, isDigit⟩ := isWhole
  cases rest with
  | nil =>
      rw [pointed, NumberPhase.run?_append, NumberPhase.run?_cons, starts]
      · exact run?_exponentChars rfl exponent
      · simp
  | cons second rest =>
      have fraction : NumberPhase.whole.run? ('.' :: second :: rest) = some .fraction :=
        run?_point rfl (List.cons_ne_nil second rest) isDigit
      rw [pointed, List.cons_append, NumberPhase.run?_cons, starts, Option.bind_some,
        NumberPhase.run?_append, fraction]
      exact run?_exponentChars rfl exponent

/-- The decimal of no digits but zero has to be zero itself: zeros in front of a point are not
written twice. -/
theorem isSize_decimalChars {decimal : Double.Decimal}
    (proper : decimal.digits = 0 → decimal.exponent = 0) : IsSize (decimalChars decimal) := by
  by_cases zero : decimal.digits = 0
  · have eq : decimal = ⟨0, 0⟩ := by
      cases decimal
      simp_all
    rw [eq]
    exact ⟨.fraction, rfl, rfl⟩
  · have isWhole := isWhole_toDigits zero
    have isDigit := isDigit_of_mem_toDigits decimal.digits
    have nonempty : Nat.toDigits 10 decimal.digits ≠ [] := Nat.toDigits_ne_nil
    unfold decimalChars
    generalize Nat.toDigits 10 decimal.digits = digits at isWhole isDigit nonempty ⊢
    dsimp only
    split_ifs with integral inside small
    -- The digits, zeros for the exponent, and an empty fraction.
    · have padded := isWhole.append (isDigit_of_mem_replicate decimal.exponent.toNat)
      refine ⟨.fraction, ?_, rfl⟩
      rw [NumberPhase.run?_append, padded.run?]
      rfl
    -- A point among the digits: at least one stands before it and at least one behind it.
    · have whole : IsWhole (digits.take (digits.length + decimal.exponent).toNat) :=
        isWhole.take (by omega)
      have places : digits.drop (digits.length + decimal.exponent).toNat ≠ [] := by
        rw [Ne, List.drop_eq_nil_iff]
        omega
      refine ⟨.fraction, ?_, rfl⟩
      rw [NumberPhase.run?_append, whole.run?]
      exact run?_point rfl places fun c member => isDigit c (List.mem_of_mem_drop member)
    -- All digits behind the point.
    · refine ⟨.fraction, ?_, rfl⟩
      rw [List.append_assoc, List.cons_append, List.cons_append, List.nil_append,
        NumberPhase.run?_cons]
      apply run?_point rfl
      · simp [nonempty]
      · intro c member
        rcases List.mem_append.mp member with zeros | digit
        · exact isDigit_of_mem_replicate _ c zeros
        · exact isDigit c digit
    · exact isSize_pointed_append_exponentChars isWhole _

/-! ## Doubles -/

/-- The literal of a finite double is a number; for any other there is no number. -/
theorem ofDouble_cases (x : Double) :
    Json.ofDouble x = .null ∨ ∃ literal, Json.ofDouble x = .number literal ∧ IsNumber literal := by
  unfold Json.ofDouble
  by_cases finite : (x.isNaN || x.isInfinite) = true
  · rw [if_pos finite]
    exact .inl rfl
  · rw [if_neg finite]
    refine .inr ⟨_, rfl, ?_⟩
    have size : IsSize (if x.magnitude = 0 then ['0', '.', '0']
        else decimalChars (x.shortest .toEven)) := by
      by_cases zero : x.magnitude = 0
      · rw [if_pos zero]
        exact ⟨.fraction, rfl, rfl⟩
      · rw [if_neg zero]
        exact isSize_decimalChars (Double.exponent_shortest_eq_zero zero)
    by_cases negative : x.isNegative = true
    · rw [if_pos negative]
      exact .negative size
    · rw [if_neg negative]
      exact .positive size

end AddRate.Json
