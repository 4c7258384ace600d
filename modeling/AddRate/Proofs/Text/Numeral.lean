import AddRate.Text.Numeral
import Mathlib.Data.List.Basic

/-!
# The grammar of numerals

The reader accepts a text exactly if it is a numeral whose value is below the bound: at least one
digit, zeros in front included, and perhaps a plus sign before them. It gives back that value. Of
any other text it reports the first mistake, and a value that gets too large is one.
-/

namespace AddRate.Text

/-- A numeral and its value. -/
inductive IsNumeral : List Char → Nat → Prop where
  | unsigned {digits : List Char} (nonempty : digits ≠ [])
      (isDigit : ∀ c ∈ digits, c.isDigit = true) :
      IsNumeral digits (Nat.ofDigitChars 10 digits 0)
  | signed {digits : List Char} (nonempty : digits ≠ [])
      (isDigit : ∀ c ∈ digits, c.isDigit = true) :
      IsNumeral ('+' :: digits) (Nat.ofDigitChars 10 digits 0)

theorem le_ofDigitChars (digits : List Char) (value : Nat) :
    value ≤ Nat.ofDigitChars 10 digits value := by
  induction digits generalizing value with
  | nil => exact Nat.le_refl value
  | cons c rest ih =>
      rw [Nat.ofDigitChars_cons]
      exact Nat.le_trans (by omega) (ih _)

/-- Digits are read as long as the value of those read so far stays below the bound, and a value
only grows. -/
theorem readDigits_eq_ok_iff {bound value count : Nat} {chars : List Char} (small : value < bound) :
    readDigits bound value chars = .ok count ↔
      (∀ c ∈ chars, c.isDigit = true) ∧ Nat.ofDigitChars 10 chars value = count ∧
        count < bound := by
  induction chars generalizing value with
  | nil =>
      simp only [readDigits, Except.ok.injEq, List.not_mem_nil, false_implies, implies_true,
        Nat.ofDigitChars_nil, true_and]
      constructor
      · rintro rfl
        exact ⟨rfl, small⟩
      · exact And.left
  | cons c rest ih =>
      rw [Nat.ofDigitChars_cons, List.forall_mem_cons, readDigits, digitValue?, Nat.mul_comm 10]
      by_cases digit : c.isDigit = true
      · simp only [digit, if_true, true_and]
        by_cases fits : value * 10 + (c.toNat - '0'.toNat) < bound
        · rw [if_pos fits]
          exact ih fits
        · rw [if_neg fits]
          simp only [reduceCtorEq, false_iff]
          rintro ⟨-, rfl, below⟩
          exact fits (Nat.lt_of_le_of_lt (le_ofDigitChars rest _) below)
      · simp [digit]

/-- With or without a sign, the digits of a numeral are what is read. -/
theorem readUnsignedChars_of_digits {bound : Nat} {digits : List Char} (nonempty : digits ≠ [])
    (isDigit : ∀ c ∈ digits, c.isDigit = true) :
    readUnsignedChars bound digits = readDigits bound 0 digits ∧
      readUnsignedChars bound ('+' :: digits) = readDigits bound 0 digits := by
  obtain ⟨first, rest, rfl⟩ := List.exists_cons_of_ne_nil nonempty
  refine ⟨?_, rfl⟩
  unfold readUnsignedChars
  split
  · contradiction
  · exact absurd (isDigit '+' (by simp_all)) (by decide)
  · exact absurd (isDigit '+' (by simp_all)) (by decide)
  · rfl

/-- The reader accepts the numerals below its bound, and gives back their values. -/
theorem readUnsignedChars_eq_ok_iff {bound count : Nat} {chars : List Char}
    (positive : 0 < bound) :
    readUnsignedChars bound chars = .ok count ↔ IsNumeral chars count ∧ count < bound := by
  constructor
  · intro read
    unfold readUnsignedChars at read
    split at read
    · cases read
    · cases read
    · rename_i nonempty
      obtain ⟨isDigit, rfl, below⟩ := (readDigits_eq_ok_iff positive).mp read
      refine ⟨.signed ?_ isDigit, below⟩
      rintro rfl
      exact nonempty rfl
    · rename_i nonempty _ _
      obtain ⟨isDigit, rfl, below⟩ := (readDigits_eq_ok_iff positive).mp read
      exact ⟨.unsigned nonempty isDigit, below⟩
  · rintro ⟨numeral, below⟩
    cases numeral with
    | unsigned nonempty isDigit =>
        rw [(readUnsignedChars_of_digits nonempty isDigit).1]
        exact (readDigits_eq_ok_iff positive).mpr ⟨isDigit, rfl, below⟩
    | signed nonempty isDigit =>
        rw [(readUnsignedChars_of_digits nonempty isDigit).2]
        exact (readDigits_eq_ok_iff positive).mpr ⟨isDigit, rfl, below⟩

theorem readUnsigned_eq_ok_iff {bound count : Nat} {text : String} (positive : 0 < bound) :
    readUnsigned bound text = .ok count ↔ IsNumeral text.toList count ∧ count < bound :=
  readUnsignedChars_eq_ok_iff positive

/-- The characters of a numeral lie below the letters. -/
theorem IsNumeral.toNat_lt {chars : List Char} {value : Nat} (numeral : IsNumeral chars value) :
    ∀ c ∈ chars, c.toNat < 0x41 := by
  have low : ∀ c : Char, c.isDigit = true → c.toNat < 0x41 := by
    intro c digit
    simp only [Char.isDigit, Bool.and_eq_true, decide_eq_true_eq] at digit
    have upper : c.toNat ≤ 57 := UInt32.le_iff_toNat_le.mp digit.2
    omega
  intro c member
  cases numeral with
  | unsigned _ isDigit => exact low c (isDigit c member)
  | signed _ isDigit =>
      rcases List.mem_cons.mp member with rfl | member
      · decide
      · exact low c (isDigit c member)

/-! ## Mistakes -/

/-- How digits go wrong behind others with a value: a character is none, or their own value gets too
large, whichever comes first. -/
inductive Breaks (bound value : Nat) : List Char → NumeralError → Prop where
  | invalidDigit {digits : List Char} {c : Char} {rest : List Char}
      (isDigit : ∀ d ∈ digits, d.isDigit = true)
      (below : Nat.ofDigitChars 10 digits value < bound) (noDigit : c.isDigit = false) :
      Breaks bound value (digits ++ c :: rest) .invalidDigit
  | tooLarge {digits rest : List Char} (isDigit : ∀ d ∈ digits, d.isDigit = true)
      (beyond : bound ≤ Nat.ofDigitChars 10 digits value) :
      Breaks bound value (digits ++ rest) .tooLarge

namespace Breaks

variable {bound value : Nat} {chars : List Char} {reason : NumeralError}

theorem ne_nil (breaks : Breaks bound value chars reason) (small : value < bound) :
    chars ≠ [] := by
  cases breaks with
  | invalidDigit => exact List.append_ne_nil_of_right_ne_nil _ (List.cons_ne_nil _ _)
  | @tooLarge digits rest _ beyond =>
      intro empty
      rw [(List.append_eq_nil_iff.mp empty).1, Nat.ofDigitChars_nil] at beyond
      omega

/-- A digit in front whose value still fits changes nothing. -/
theorem cons {c : Char} (digit : c.isDigit = true)
    (breaks : Breaks bound (value * 10 + (c.toNat - '0'.toNat)) chars reason) :
    Breaks bound value (c :: chars) reason := by
  rw [Nat.mul_comm] at breaks
  cases breaks with
  | invalidDigit isDigit below noDigit =>
      exact .invalidDigit (List.forall_mem_cons.mpr ⟨digit, isDigit⟩) below noDigit
  | tooLarge isDigit beyond =>
      exact .tooLarge (List.forall_mem_cons.mpr ⟨digit, isDigit⟩) beyond

end Breaks

theorem readDigits_cons {bound value : Nat} {c : Char} (digit : c.isDigit = true)
    (rest : List Char) :
    readDigits bound value (c :: rest) =
      if value * 10 + (c.toNat - '0'.toNat) < bound then
        readDigits bound (value * 10 + (c.toNat - '0'.toNat)) rest
      else
        .error .tooLarge := by
  simp only [readDigits, digitValue?, digit, if_true]

theorem breaks_of_readDigits {bound value : Nat} {chars : List Char} {reason : NumeralError}
    (small : value < bound) (read : readDigits bound value chars = .error reason) :
    Breaks bound value chars reason := by
  induction chars generalizing value with
  | nil => cases read
  | cons c rest ih =>
      by_cases digit : c.isDigit = true
      · rw [readDigits_cons digit] at read
        by_cases fits : value * 10 + (c.toNat - '0'.toNat) < bound
        · rw [if_pos fits] at read
          exact (ih fits read).cons digit
        · rw [if_neg fits] at read
          cases read
          have beyond : bound ≤ Nat.ofDigitChars 10 [c] value := by
            rw [Nat.ofDigitChars_cons, Nat.ofDigitChars_nil, Nat.mul_comm]
            exact Nat.le_of_not_lt fits
          exact .tooLarge (List.forall_mem_singleton.mpr digit) beyond
      · rw [readDigits, digitValue?, if_neg digit] at read
        cases read
        have noDigit : c.isDigit = false := by simpa using digit
        exact @Breaks.invalidDigit bound value [] c rest (List.forall_mem_nil _) small noDigit

theorem readDigits_of_breaks {bound value : Nat} {chars : List Char} {reason : NumeralError}
    (small : value < bound) (breaks : Breaks bound value chars reason) :
    readDigits bound value chars = .error reason := by
  cases breaks with
  | @invalidDigit digits c rest isDigit below noDigit =>
      induction digits generalizing value with
      | nil => simp [readDigits, digitValue?, noDigit]
      | cons d digits ih =>
          obtain ⟨digit, others⟩ := List.forall_mem_cons.mp isDigit
          rw [Nat.ofDigitChars_cons, Nat.mul_comm] at below
          have fits := Nat.lt_of_le_of_lt (le_ofDigitChars digits _) below
          rw [List.cons_append, readDigits_cons digit, if_pos fits]
          exact ih fits others below
  | @tooLarge digits rest isDigit beyond =>
      induction digits generalizing value with
      | nil => exact absurd small (Nat.not_lt_of_le beyond)
      | cons d digits ih =>
          obtain ⟨digit, others⟩ := List.forall_mem_cons.mp isDigit
          rw [Nat.ofDigitChars_cons, Nat.mul_comm] at beyond
          rw [List.cons_append, readDigits_cons digit]
          by_cases fits : value * 10 + (d.toNat - '0'.toNat) < bound
          · rw [if_pos fits]
            exact ih fits others beyond
          · rw [if_neg fits]

/-- What is wrong with a text as a numeral below a bound. -/
inductive Mistake (bound : Nat) : List Char → NumeralError → Prop where
  | empty : Mistake bound [] .empty
  | sign : Mistake bound ['+'] .invalidDigit
  | unsigned {chars : List Char} {reason : NumeralError} (plain : chars.head? ≠ some '+')
      (breaks : Breaks bound 0 chars reason) : Mistake bound chars reason
  | signed {digits : List Char} {reason : NumeralError} (breaks : Breaks bound 0 digits reason) :
      Mistake bound ('+' :: digits) reason

/-- The reader refuses a text for the mistake in it. -/
theorem readUnsigned_eq_error_iff {bound : Nat} {text : String} {reason : NumeralError}
    (positive : 0 < bound) :
    readUnsigned bound text = .error reason ↔ Mistake bound text.toList reason := by
  unfold readUnsigned
  generalize text.toList = chars
  constructor
  · intro read
    unfold readUnsignedChars at read
    split at read
    · cases read
      exact .empty
    · cases read
      exact .sign
    · exact .signed (breaks_of_readDigits positive read)
    · rename_i plain
      refine .unsigned ?_ (breaks_of_readDigits positive read)
      intro starts
      obtain ⟨digits, eq⟩ := List.head?_eq_some_iff.mp starts
      exact plain digits eq
  · intro mistake
    cases mistake with
    | empty => rfl
    | sign => rfl
    | signed breaks =>
        obtain ⟨c, rest, rfl⟩ := List.exists_cons_of_ne_nil (breaks.ne_nil positive)
        exact readDigits_of_breaks positive breaks
    | unsigned plain breaks =>
        unfold readUnsignedChars
        split
        · exact absurd rfl (breaks.ne_nil positive)
        · exact absurd rfl plain
        · exact absurd rfl plain
        · exact readDigits_of_breaks positive breaks

/-! ## Digits of a number -/

/-- The digits of a number are read as that number. -/
theorem readDigits_toDigits {bound count : Nat} (lt : count < bound) :
    readDigits bound 0 (Nat.toDigits 10 count) = .ok count := by
  rw [readDigits_eq_ok_iff (Nat.zero_lt_of_lt lt)]
  refine ⟨?_, Nat.ofDigitChars_ten_toDigits, lt⟩
  intro c member
  exact Nat.isDigit_of_mem_toDigits (by decide) (by decide) member

theorem hexValue?_digitChar : ∀ digit < 16, hexValue? (Nat.digitChar digit) = some digit := by
  decide

/-- A digit is the character of its value. -/
theorem digitChar_toNat_sub {c : Char} (digit : c.isDigit = true) :
    c.toNat - '0'.toNat < 10 ∧ Nat.digitChar (c.toNat - '0'.toNat) = c := by
  have digits : ∀ value < 10, Nat.digitChar value = Char.ofNat (value + '0'.toNat) := by decide
  have zero : '0'.toNat = 48 := rfl
  have nine : '9'.toNat = 57 := rfl
  obtain ⟨least, greatest⟩ := Char.isDigit_iff_toNat.mp digit
  have small : c.toNat - '0'.toNat < 10 := by omega
  refine ⟨small, ?_⟩
  rw [digits _ small, Nat.sub_add_cancel least, Char.ofNat_toNat]

/-- Digits behind those of a number that is not zero are the digits of another number. -/
theorem toDigits_ofDigitChars {digits : List Char} {value : Nat} (positive : 0 < value)
    (isDigit : ∀ c ∈ digits, c.isDigit = true) :
    Nat.toDigits 10 (Nat.ofDigitChars 10 digits value) = Nat.toDigits 10 value ++ digits := by
  induction digits generalizing value with
  | nil => simp
  | cons c digits ih =>
      obtain ⟨small, own⟩ := digitChar_toNat_sub (isDigit c List.mem_cons_self)
      have front := Nat.toDigits_append_toDigits (by decide : 1 < 10) positive small
      rw [Nat.toDigits_of_lt_base small, own] at front
      have others := fun d member => isDigit d (List.mem_cons_of_mem c member)
      rw [Nat.ofDigitChars_cons, ih (by omega) others, ← front, List.append_assoc,
        List.singleton_append]

end AddRate.Text
