import AddRate.Proofs.Json.Number
import AddRate.Proofs.Text.Numeral

/-!
# The grammar of JSON texts

What a text is made of, said without the states of a lexer: numbers by their parts, strings by their
pieces, lexemes for tokens, and blanks before and behind every lexeme. The parts of a number are
exactly what takes the phases of a number from its first character to a last one where it may end.
-/

namespace AddRate.Json

/-! ## Numbers -/

/-- At least one digit and nothing else. -/
def IsDigits (text : List Char) : Prop :=
  text ≠ [] ∧ ∀ c ∈ text, c.isDigit = true

/-- A whole number: a zero alone, or digits that do not start with one. -/
inductive IsInteger : List Char → Prop where
  | zero : IsInteger ['0']
  | digits {first : Char} {rest : List Char} (digit : first.isDigit = true)
      (nonzero : first ≠ '0') (isDigit : ∀ c ∈ rest, c.isDigit = true) : IsInteger (first :: rest)

/-- Places behind a point, or none. -/
inductive IsFraction : List Char → Prop where
  | none : IsFraction []
  | places {digits : List Char} (isDigits : IsDigits digits) : IsFraction ('.' :: digits)

/-- A mark with an exponent, which may have a sign, or nothing. -/
inductive IsExponent : List Char → Prop where
  | none : IsExponent []
  | unsigned {mark : Char} {digits : List Char} (isMark : mark = 'e' ∨ mark = 'E')
      (isDigits : IsDigits digits) : IsExponent (mark :: digits)
  | signed {mark sign : Char} {digits : List Char} (isMark : mark = 'e' ∨ mark = 'E')
      (isSign : sign = '+' ∨ sign = '-') (isDigits : IsDigits digits) :
      IsExponent (mark :: sign :: digits)

/-- A number without a sign. -/
inductive IsMagnitude : List Char → Prop where
  | parts {whole fraction exponent : List Char} (isInteger : IsInteger whole)
      (isFraction : IsFraction fraction) (isExponent : IsExponent exponent) :
      IsMagnitude (whole ++ fraction ++ exponent)

/-- A number: a minus sign may stand before it, a plus sign may not. -/
inductive NumberText : List Char → Prop where
  | positive {size : List Char} (isMagnitude : IsMagnitude size) : NumberText size
  | negative {size : List Char} (isMagnitude : IsMagnitude size) : NumberText ('-' :: size)

namespace NumberPhase

/-- From the phase on, the characters make a number complete. -/
def Completes (phase : NumberPhase) (more : List Char) : Prop :=
  ∃ last, phase.run? more = some last ∧ last.complete = true

variable {phase next : NumberPhase} {c : Char} {digits more : List Char}

@[simp] theorem completes_nil : phase.Completes [] ↔ phase.complete = true := by
  simp [Completes]

@[simp] theorem completes_cons :
    phase.Completes (c :: more) ↔ ∃ next, phase.next? c = some next ∧ next.Completes more := by
  simp only [Completes, run?_cons, Option.bind_eq_some_iff]
  constructor
  · rintro ⟨last, ⟨next, goesOn, runs⟩, complete⟩
    exact ⟨next, goesOn, last, runs, complete⟩
  · rintro ⟨next, goesOn, last, runs, complete⟩
    exact ⟨last, ⟨next, goesOn, runs⟩, complete⟩

theorem Completes.append (completes : next.Completes more) (runs : phase.run? digits = some next) :
    phase.Completes (digits ++ more) := by
  obtain ⟨last, runsOn, complete⟩ := completes
  refine ⟨last, ?_, complete⟩
  rw [run?_append, runs]
  exact runsOn

/-! ### From parts to phases -/

theorem completes_isExponent (mark : ∀ c, c = 'e' ∨ c = 'E' → phase.next? c = some .mark)
    (complete : phase.complete = true) {exponent : List Char} (isExponent : IsExponent exponent) :
    phase.Completes exponent := by
  have digitsRun : ∀ phase, (∀ c, c.isDigit = true → next? phase c = some .exponent) →
      ∀ {digits : List Char}, IsDigits digits → phase.Completes digits := by
    intro phase goesOn digits isDigits
    exact ⟨.exponent, run?_digits_of_ne_nil phase .exponent goesOn (fun _ digit => if_pos digit)
      isDigits.1 isDigits.2, rfl⟩
  cases isExponent with
  | none => exact completes_nil.mpr complete
  | unsigned isMark isDigits =>
      refine completes_cons.mpr ⟨_, mark _ isMark, digitsRun _ ?_ isDigits⟩
      intro c digit
      have noSign : ¬(c = '+' ∨ c = '-') := by
        rintro (rfl | rfl) <;> cases digit
      simp [next?, noSign, digit]
  | signed isMark isSign isDigits =>
      refine completes_cons.mpr ⟨_, mark _ isMark, completes_cons.mpr ⟨.markSign, ?_, ?_⟩⟩
      · exact if_pos isSign
      · exact digitsRun .markSign (fun _ digit => if_pos digit) isDigits

/-- A fraction and an exponent may follow where a whole number may end. -/
theorem completes_fraction_append (point : phase.next? '.' = some .point)
    (mark : ∀ c, c = 'e' ∨ c = 'E' → phase.next? c = some .mark) (complete : phase.complete = true)
    {fraction exponent : List Char} (isFraction : IsFraction fraction)
    (isExponent : IsExponent exponent) : phase.Completes (fraction ++ exponent) := by
  cases isFraction with
  | none => exact completes_isExponent mark complete isExponent
  | places isDigits =>
      apply Completes.append _ (run?_point point isDigits.1 isDigits.2)
      refine completes_isExponent ?_ rfl isExponent
      rintro c (rfl | rfl) <;> rfl

theorem completes_isMagnitude {size : List Char} (isMagnitude : IsMagnitude size) :
    sign.Completes size := by
  cases isMagnitude with
  | parts isInteger isFraction isExponent =>
      rw [List.append_assoc]
      cases isInteger with
      | zero =>
          refine (completes_fraction_append rfl ?_ rfl isFraction isExponent).append rfl
          rintro c (rfl | rfl) <;> rfl
      | digits digit nonzero isDigit =>
          refine (completes_fraction_append rfl ?_ rfl isFraction isExponent).append
            (IsWhole.run? ⟨_, _, rfl, ?_, isDigit⟩)
          · rintro c (rfl | rfl) <;> rfl
          · simp [next?, nonzero, digit]

/-! ### From phases to parts -/

/-- A phase that goes on with digits is left at the first character that is none. -/
theorem Completes.exists_digits (completes : phase.Completes more)
    (stays : ∀ c, c.isDigit = true → phase.next? c = some phase) :
    ∃ digits rest, more = digits ++ rest ∧ (∀ c ∈ digits, c.isDigit = true) ∧
      (∀ c ∈ rest.head?, c.isDigit = false) ∧ phase.Completes rest := by
  induction more with
  | nil => exact ⟨[], [], rfl, by simp, by simp, completes⟩
  | cons c more ih =>
      cases digit : c.isDigit with
      | true =>
          obtain ⟨next, goesOn, completes⟩ := completes_cons.mp completes
          rw [stays c digit] at goesOn
          cases goesOn
          obtain ⟨digits, rest, rfl, isDigit, ends, completes⟩ := ih completes
          exact ⟨c :: digits, rest, rfl, by simpa [digit] using isDigit, ends, completes⟩
      | false => exact ⟨[], c :: more, rfl, by simp, by simpa using digit, completes⟩

theorem Completes.isDigit_of_exponent (completes : exponent.Completes more) :
    ∀ c ∈ more, c.isDigit = true := by
  obtain ⟨digits, rest, rfl, isDigit, ends, completes⟩ :=
    completes.exists_digits fun _ digit => if_pos digit
  cases rest with
  | nil => simpa using isDigit
  | cons c rest =>
      obtain ⟨next, goesOn, -⟩ := completes_cons.mp completes
      simp [next?, ends c rfl] at goesOn

theorem Completes.isDigits_of_markSign (completes : markSign.Completes more) : IsDigits more := by
  cases more with
  | nil => cases completes_nil.mp completes
  | cons c more =>
      obtain ⟨next, goesOn, completes⟩ := completes_cons.mp completes
      cases digit : c.isDigit with
      | false => simp [next?, digit] at goesOn
      | true =>
          rw [next?, if_pos digit] at goesOn
          cases goesOn
          exact ⟨List.cons_ne_nil _ _, by simpa [digit] using completes.isDigit_of_exponent⟩

theorem Completes.isExponent_of_mark (completes : mark.Completes more)
    (isMark : c = 'e' ∨ c = 'E') : IsExponent (c :: more) := by
  cases more with
  | nil => cases completes_nil.mp completes
  | cons d more =>
      obtain ⟨next, goesOn, completes⟩ := completes_cons.mp completes
      by_cases isSign : d = '+' ∨ d = '-'
      · rw [next?, if_pos isSign] at goesOn
        cases goesOn
        exact .signed isMark isSign completes.isDigits_of_markSign
      · rw [next?, if_neg isSign] at goesOn
        refine .unsigned isMark (Completes.isDigits_of_markSign ?_)
        exact completes_cons.mpr ⟨next, goesOn, completes⟩

/-- Where neither a digit nor a point can follow, an exponent or nothing does. -/
theorem Completes.isExponent (completes : phase.Completes more)
    (mark : ∀ c ∈ more.head?, phase.next? c =
      if c = 'e' ∨ c = 'E' then some NumberPhase.mark else none) :
    IsExponent more := by
  cases more with
  | nil => exact .none
  | cons c more =>
      obtain ⟨next, goesOn, completes⟩ := completes_cons.mp completes
      rw [mark c rfl] at goesOn
      split at goesOn
      · next isMark =>
        cases goesOn
        exact completes.isExponent_of_mark isMark
      · cases goesOn

theorem Completes.exists_of_fraction (completes : fraction.Completes more) :
    ∃ digits exponent, more = digits ++ exponent ∧ (∀ c ∈ digits, c.isDigit = true) ∧
      IsExponent exponent := by
  obtain ⟨digits, rest, rfl, isDigit, ends, completes⟩ :=
    completes.exists_digits fun _ digit => if_pos digit
  refine ⟨digits, rest, rfl, isDigit, completes.isExponent ?_⟩
  intro c head
  simp [next?, ends c head]

/-- Behind a zero stands a fraction or none, and an exponent or none. -/
theorem Completes.exists_of_zero (completes : zero.Completes more) :
    ∃ fraction exponent, more = fraction ++ exponent ∧ IsFraction fraction ∧
      IsExponent exponent := by
  cases more with
  | nil => exact ⟨[], [], rfl, .none, .none⟩
  | cons c more =>
      by_cases point : c = '.'
      · subst point
        obtain ⟨next, goesOn, completes⟩ := completes_cons.mp completes
        cases goesOn
        cases more with
        | nil => cases completes_nil.mp completes
        | cons d more =>
            obtain ⟨next, goesOn, completes⟩ := completes_cons.mp completes
            cases digit : d.isDigit with
            | false => simp [next?, digit] at goesOn
            | true =>
                rw [next?, if_pos digit] at goesOn
                cases goesOn
                obtain ⟨digits, exponent, rfl, isDigit, isExponent⟩ := completes.exists_of_fraction
                exact ⟨'.' :: d :: digits, exponent, rfl,
                  .places ⟨List.cons_ne_nil _ _, by simpa [digit] using isDigit⟩, isExponent⟩
      · refine ⟨[], c :: more, rfl, .none, completes.isExponent ?_⟩
        intro d head
        cases head
        exact if_neg point

theorem Completes.isMagnitude (completes : sign.Completes more) : IsMagnitude more := by
  cases more with
  | nil => cases completes_nil.mp completes
  | cons c more =>
      obtain ⟨next, goesOn, completes⟩ := completes_cons.mp completes
      by_cases first : c = '0'
      · subst first
        cases goesOn
        obtain ⟨fraction, exponent, rfl, isFraction, isExponent⟩ := completes.exists_of_zero
        exact .parts .zero isFraction isExponent
      · rw [next?, if_neg first] at goesOn
        split at goesOn
        · next digit =>
          cases goesOn
          obtain ⟨digits, rest, rfl, isDigit, ends, completes⟩ :=
            completes.exists_digits fun _ digit => if_pos digit
          -- Behind its last digit a number goes on as it does behind a zero.
          have asZero : zero.Completes rest := by
            cases rest with
            | nil => exact completes_nil.mpr rfl
            | cons d rest => simpa [next?, ends d rfl] using completes
          obtain ⟨fraction, exponent, rfl, isFraction, isExponent⟩ := asZero.exists_of_zero
          rw [← List.append_assoc, ← List.cons_append, ← List.cons_append]
          exact .parts (.digits digit first isDigit) isFraction isExponent
        · cases goesOn

theorem completes_sign_iff {size : List Char} : sign.Completes size ↔ IsMagnitude size :=
  ⟨Completes.isMagnitude, completes_isMagnitude⟩

end NumberPhase

/-- The literals of the lexer are the numbers of the grammar. -/
theorem isNumber_iff {literal : List Char} : IsNumber literal ↔ NumberText literal := by
  constructor
  · intro isNumber
    cases isNumber with
    | positive isSize => exact .positive (NumberPhase.completes_sign_iff.mp isSize)
    | negative isSize => exact .negative (NumberPhase.completes_sign_iff.mp isSize)
  · intro number
    cases number with
    | positive isMagnitude => exact .positive (NumberPhase.completes_sign_iff.mpr isMagnitude)
    | negative isMagnitude => exact .negative (NumberPhase.completes_sign_iff.mpr isMagnitude)

/-! ### Counts -/

/-- There is one way to write a whole number. -/
theorem IsInteger.toDigits_eq {literal : List Char} (isInteger : IsInteger literal) :
    Nat.toDigits 10 (Nat.ofDigitChars 10 literal 0) = literal := by
  cases isInteger with
  | zero => rfl
  | @digits first rest digit nonzero isDigit =>
      obtain ⟨small, own⟩ := Text.digitChar_toNat_sub digit
      have positive : 0 < first.toNat - '0'.toNat := by
        apply Nat.pos_of_ne_zero
        intro zero
        rw [zero] at own
        exact nonzero own.symm
      rw [Nat.ofDigitChars_cons, Nat.mul_zero, Nat.zero_add,
        Text.toDigits_ofDigitChars positive isDigit,
        Nat.toDigits_of_lt_base small, own]
      rfl

/-- A number of digits only is a whole number. -/
theorem isInteger_of_isDigit {literal : List Char} (number : NumberText literal)
    (isDigit : ∀ c ∈ literal, c.isDigit = true) : IsInteger literal := by
  cases number with
  | negative => exact absurd (isDigit '-' List.mem_cons_self) (by decide)
  | positive isMagnitude =>
      cases isMagnitude with
      | @parts whole fraction exponent isInteger isFraction isExponent =>
          have noMark : ∀ mark : Char, mark = 'e' ∨ mark = 'E' → mark ∉ exponent := by
            rintro mark (rfl | rfl) member
            · exact absurd (isDigit 'e' (List.mem_append_right _ member)) (by decide)
            · exact absurd (isDigit 'E' (List.mem_append_right _ member)) (by decide)
          cases isFraction with
          | places => exact absurd (isDigit '.' (by simp)) (by decide)
          | none =>
              cases isExponent with
              | none => simpa using isInteger
              | unsigned isMark => exact absurd List.mem_cons_self (noMark _ isMark)
              | signed isMark => exact absurd List.mem_cons_self (noMark _ isMark)

/-! ## Strings -/

/-- The code that `code` and the hexadecimal digits behind it spell. -/
def hexCode? (code : Nat) (digits : List Char) : Option Nat :=
  digits.foldlM (fun code c => (Text.hexValue? c).map fun digit => code * 16 + digit) code

/-- What stands between the quotes of a string: characters as they are, unless they are control
characters, quotes or backslashes; letters behind a backslash; and code units of four digits. -/
inductive StringBody : List Char → List Piece → Prop where
  | nil : StringBody [] []
  | char {c : Char} {body : List Char} {pieces : List Piece} (printable : 0x20 ≤ c.toNat)
      (quote : c ≠ '"') (backslash : c ≠ '\\') (rest : StringBody body pieces) :
      StringBody (c :: body) (.char c :: pieces)
  | letter {letter c : Char} {body : List Char} {pieces : List Piece}
      (meant : escaped? letter = some c) (rest : StringBody body pieces) :
      StringBody ('\\' :: letter :: body) (.char c :: pieces)
  | unit {digits : List Char} {code : Nat} {body : List Char} {pieces : List Piece}
      (length : digits.length = 4) (spells : hexCode? 0 digits = some code)
      (rest : StringBody body pieces) :
      StringBody ('\\' :: 'u' :: digits ++ body) (.unit code :: pieces)

/-! ## Texts -/

/-- How a token is written. -/
inductive Lexeme : List Char → Token → Prop where
  | openArray : Lexeme ['['] .openArray
  | closeArray : Lexeme [']'] .closeArray
  | openObject : Lexeme ['\x7b'] .openObject
  | closeObject : Lexeme ['\x7d'] .closeObject
  | comma : Lexeme [','] .comma
  | colon : Lexeme [':'] .colon
  | null : Lexeme ['n', 'u', 'l', 'l'] (.scalar .null)
  | true : Lexeme ['t', 'r', 'u', 'e'] (.scalar (.bool .true))
  | false : Lexeme ['f', 'a', 'l', 's', 'e'] (.scalar (.bool .false))
  | number {literal : List Char} (number : NumberText literal) :
      Lexeme literal (.scalar (.number literal))
  | string {body : List Char} {pieces : List Piece} (stringBody : StringBody body pieces) :
      Lexeme ('"' :: body ++ ['"']) (.string (Piece.text? pieces))

/-- A text is tokens one after the other, with blanks wherever there is no token. -/
inductive Spaced : List Char → List Token → Prop where
  | done : Spaced [] []
  | blank {c : Char} {text : List Char} {tokens : List Token} (isSpace : Lexing.isSpace c = true)
      (rest : Spaced text tokens) : Spaced (c :: text) tokens
  | token {lexeme text : List Char} {token : Token} {tokens : List Token}
      (written : Lexeme lexeme token) (rest : Spaced text tokens) :
      Spaced (lexeme ++ text) (token :: tokens)

namespace Spaced

variable {first second : List Char} {firstTokens secondTokens : List Token} {token : Token}

theorem append (spaced : Spaced first firstTokens) (rest : Spaced second secondTokens) :
    Spaced (first ++ second) (firstTokens ++ secondTokens) := by
  induction spaced with
  | done => exact rest
  | blank isSpace _ ih => exact .blank isSpace ih
  | token written _ ih =>
      rw [List.append_assoc]
      exact .token written ih

/-- A token of one character. -/
theorem cons {c : Char} (written : Lexeme [c] token) (rest : Spaced second secondTokens) :
    Spaced (c :: second) (token :: secondTokens) :=
  .token written rest

theorem of_lexeme (written : Lexeme first token) : Spaced first [token] := by
  simpa using Spaced.token written .done

/-- Parts with commas between them are their tokens with commas between them. -/
theorem intercalate {α : Type} {parts : List α} {text : α → List Char} {tokens : α → List Token}
    (each : ∀ part ∈ parts, Spaced (text part) (tokens part)) :
    Spaced ([','].intercalate (parts.map text)) ([Token.comma].intercalate (parts.map tokens)) := by
  induction parts with
  | nil => exact .done
  | cons part rest ih =>
      have first := each part List.mem_cons_self
      have others := ih fun other member => each other (List.mem_cons_of_mem _ member)
      cases rest with
      | nil => simpa using first
      | cons next rest => simpa using first.append (.cons .comma others)

theorem exists_lexeme (spaced : Spaced first firstTokens) :
    ∀ token ∈ firstTokens, ∃ lexeme, Lexeme lexeme token := by
  induction spaced with
  | done => simp
  | blank _ _ ih => exact ih
  | token written _ ih => simpa using ⟨⟨_, written⟩, ih⟩

end Spaced

end AddRate.Json
