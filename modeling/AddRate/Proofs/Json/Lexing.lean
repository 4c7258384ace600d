import AddRate.Proofs.Json.Grammar
import AddRate.Proofs.Json.Token
import Mathlib.Tactic.SplitIfs

/-!
# Texts as tokens

The lexer gives back the tokens that a text is made of, unless two scalars meet in it: such a text
could be made of other tokens too. Whatever text the lexer accepts is made of the tokens that it
gives back, as each character takes away from what is left of the text.
-/

namespace AddRate.Json

namespace Lexing

variable (state : Lexing) {next : Lexing} {c : Char} {rest : List Char}

theorem tokens?_cons_of_step {done : List Token} (step : state.step c = some (next, done)) :
    state.tokens? (c :: rest) = (next.tokens? rest).map (done ++ ·) := by
  rw [tokens?, step]
  show ((next.tokens? rest).bind fun more => some (done ++ more)) = _
  cases next.tokens? rest <;> rfl

theorem tokens?_cons_of_none (step : state.step c = none) : state.tokens? (c :: rest) = none := by
  rw [tokens?, step]
  rfl

/-- A character that completes no token. -/
theorem tokens?_cons_of_silent (step : state.step c = some (next, [])) :
    state.tokens? (c :: rest) = next.tokens? rest := by
  rw [tokens?_cons_of_step _ step]
  exact Option.map_id_apply

/-- A character that completes a token and starts the next one. -/
theorem tokens?_cons_of_flush {token : Token}
    (flush : state.step c = (start c).map fun (next, done) => (next, token :: done)) :
    state.tokens? (c :: rest) = (between.tokens? (c :: rest)).map (token :: ·) := by
  cases starts : start c with
  | none =>
      rw [starts] at flush
      rw [tokens?_cons_of_none _ flush, tokens?_cons_of_none between starts]
      rfl
  | some started =>
      rw [starts] at flush
      rw [tokens?_cons_of_step _ flush, tokens?_cons_of_step between starts,
        Option.map_map]
      rfl

/-- A text goes on with nothing that could belong to a number or a word. -/
def EndsToken (rest : List Char) : Prop :=
  ∀ c ∈ rest.head?, c.isLower = false ∧ ∀ phase, NumberPhase.next? phase c = none

theorem endsToken_nil : EndsToken [] := by
  intro c member
  cases member

theorem endsToken_cons (lower : c.isLower = false)
    (next : ∀ phase, NumberPhase.next? phase c = none) : EndsToken (c :: rest) := by
  intro d member
  cases member
  exact ⟨lower, next⟩

/-- The characters that belong to neither a number nor a word: blanks, marks and quotes. -/
def delimiters : List Char :=
  [' ', '\n', '\t', '\r', '[', ']', '\x7b', '\x7d', ',', ':', '"']

theorem endsToken_of_mem_delimiters (delimits : c ∈ delimiters) : EndsToken (c :: rest) := by
  have noLetter : delimiters.all (!·.isLower) = true := by decide
  refine endsToken_cons (by simpa using List.all_eq_true.mp noLetter c delimits) ?_
  intro phase
  simp only [delimiters, List.mem_cons, List.not_mem_nil, or_false] at delimits
  rcases delimits with rfl | rfl | rfl | rfl | rfl | rfl | rfl | rfl | rfl | rfl | rfl <;>
    cases phase <;> rfl

/-- A token that has an end of its own also ends what is before it. -/
theorem endsToken_lexeme_append {lexeme : List Char} {token : Token}
    (written : Lexeme lexeme token) (notScalar : token.isScalar = false) :
    EndsToken (lexeme ++ rest) := by
  cases written with
  | openArray => exact endsToken_of_mem_delimiters (by decide)
  | closeArray => exact endsToken_of_mem_delimiters (by decide)
  | openObject => exact endsToken_of_mem_delimiters (by decide)
  | closeObject => exact endsToken_of_mem_delimiters (by decide)
  | comma => exact endsToken_of_mem_delimiters (by decide)
  | colon => exact endsToken_of_mem_delimiters (by decide)
  | null => cases notScalar
  | true => cases notScalar
  | false => cases notScalar
  | number => cases notScalar
  | string => exact endsToken_of_mem_delimiters (by decide)

theorem mem_delimiters_of_isSpace (space : isSpace c = true) : c ∈ delimiters := by
  simp only [isSpace, Bool.or_eq_true, beq_iff_eq] at space
  rcases space with ((rfl | rfl) | rfl) | rfl <;> decide

/-- A text whose first token is no scalar ends what is before it. -/
theorem endsToken_of_spaced {tokens : List Token} (spaced : Spaced rest tokens)
    (notScalar : ∀ token ∈ tokens.head?, token.isScalar = false) : EndsToken rest := by
  cases spaced with
  | done => exact endsToken_nil
  | blank space => exact endsToken_of_mem_delimiters (mem_delimiters_of_isSpace space)
  | token written => exact endsToken_lexeme_append written (notScalar _ rfl)

/-- A word ends where its letters do. -/
theorem tokens?_word {letters : List Char} {token : Token} (word : wordToken? letters = some token)
    (ends : EndsToken rest) :
    (Lexing.word letters).tokens? rest = (between.tokens? rest).map (token :: ·) := by
  cases rest with
  | nil =>
      simp only [tokens?, finish, word]
      rfl
  | cons c rest =>
      obtain ⟨lower, -⟩ := ends c rfl
      apply tokens?_cons_of_flush
      simp only [step, lower, word, Bool.false_eq_true, if_false]
      cases start c <;> rfl

/-- A number ends where it cannot go on. -/
theorem tokens?_number {phase : NumberPhase} {digits : List Char} (complete : phase.complete = true)
    (ends : EndsToken rest) :
    (Lexing.number phase digits).tokens? rest =
      (between.tokens? rest).map (.scalar (.number digits.reverse) :: ·) := by
  have token : numberToken? phase digits = some (.scalar (.number digits.reverse)) :=
    if_pos complete
  cases rest with
  | nil =>
      simp only [tokens?, finish, token]
      rfl
  | cons c rest =>
      obtain ⟨-, next⟩ := ends c rfl
      apply tokens?_cons_of_flush
      simp only [step, next phase, token]
      cases start c <;> rfl

/-! ### Numbers -/

theorem start_of_isDigit (isDigit : c.isDigit = true) :
    start c = (NumberPhase.start? c).map fun phase => (.number phase [c], []) := by
  have different : ∀ d : Char, d.isDigit = false → c ≠ d := by
    rintro d other rfl
    rw [isDigit] at other
    cases other
  have lower : c.isLower = false := by
    rw [Bool.eq_false_iff]
    intro lower
    have small := of_decide_eq_true (Bool.and_eq_true_iff.mp isDigit).2
    have large := of_decide_eq_true (Bool.and_eq_true_iff.mp lower).1
    exact absurd (UInt32.le_trans large small) (by decide)
  simp [start, isSpace, different, lower]

/-- A number goes on as its phases do. -/
theorem tokens?_number_append {phase last : NumberPhase} {digits more : List Char}
    (runs : phase.run? more = some last) :
    (Lexing.number phase digits).tokens? (more ++ rest) =
      (Lexing.number last (more.reverse ++ digits)).tokens? rest := by
  induction more generalizing phase digits with
  | nil =>
      cases runs
      rfl
  | cons c more ih =>
      obtain ⟨next, goesOn, runs⟩ := Option.bind_eq_some_iff.mp runs
      have step : (Lexing.number phase digits).step c = some (.number next (c :: digits), []) := by
        simp only [step, goesOn]
      rw [List.cons_append, tokens?_cons_of_silent _ step, ih runs, List.reverse_cons,
        List.append_assoc]
      rfl

/-! ### Strings -/

theorem tokens?_hexDigits {pieces : List Piece} {digits : List Char} {code unit : Nat}
    (nonempty : digits ≠ []) (spells : hexCode? code digits = some unit) :
    (Lexing.unit pieces digits.length code).tokens? (digits ++ rest) =
      (Lexing.string (.unit unit :: pieces)).tokens? rest := by
  induction digits generalizing code with
  | nil => exact absurd rfl nonempty
  | cons c digits ih =>
      obtain ⟨next, value, spells⟩ := Option.bind_eq_some_iff.mp spells
      obtain ⟨digit, hex, rfl⟩ := Option.map_eq_some_iff.mp value
      cases digits with
      | nil =>
          cases spells
          apply tokens?_cons_of_silent
          simp [step, hex]
      | cons d digits =>
          rw [← ih (List.cons_ne_nil d digits) spells]
          apply tokens?_cons_of_silent
          simp [step, hex]

/-- What stands between the quotes of a string is read as its pieces. -/
theorem tokens?_stringBody {body : List Char} {written : List Piece}
    (stringBody : StringBody body written) (pieces : List Piece) :
    (Lexing.string pieces).tokens? (body ++ rest) =
      (Lexing.string (written.reverse ++ pieces)).tokens? rest := by
  induction stringBody generalizing pieces with
  | nil => rfl
  | @char c body written printable quote backslash _ ih =>
      have own : (Lexing.string pieces).step c = some (.string (.char c :: pieces), []) := by
        simp only [step, quote, backslash, Nat.not_lt_of_le printable, if_false]
      rw [List.cons_append, tokens?_cons_of_silent _ own, ih]
      simp
  | @letter letter c body written meant _ ih =>
      have notUnit : letter ≠ 'u' := by
        rintro rfl
        cases meant
      have read : (Lexing.escape pieces).step letter = some (.string (.char c :: pieces), []) := by
        simp only [step, notUnit, meant, if_false, Option.map_some]
      rw [List.cons_append, tokens?_cons_of_silent _ rfl, List.cons_append,
        tokens?_cons_of_silent _ read, ih]
      simp
  | @unit digits code body written length spells _ ih =>
      have nonempty : digits ≠ [] := by
        rintro rfl
        cases length
      have read : (Lexing.unit pieces 4 0).tokens? (digits ++ (body ++ rest)) =
          (Lexing.string (.unit code :: pieces)).tokens? (body ++ rest) := by
        rw [← length]
        exact tokens?_hexDigits nonempty spells
      show (Lexing.string pieces).tokens? ('\\' :: 'u' :: (digits ++ body ++ rest)) = _
      rw [tokens?_cons_of_silent _ rfl, tokens?_cons_of_silent _ rfl, List.append_assoc, read, ih]
      simp

/-! ### Texts -/

/-- A word is read up to its last letter. -/
theorem tokens?_word_append {letters more : List Char} (lower : ∀ c ∈ more, c.isLower = true) :
    (Lexing.word letters).tokens? (more ++ rest) =
      (Lexing.word (more.reverse ++ letters)).tokens? rest := by
  induction more generalizing letters with
  | nil => rfl
  | cons c more ih =>
      have step : (Lexing.word letters).step c = some (.word (c :: letters), []) :=
        if_pos (lower c List.mem_cons_self)
      rw [List.cons_append, tokens?_cons_of_silent _ step,
        ih fun d member => lower d (List.mem_cons_of_mem _ member), List.reverse_cons,
        List.append_assoc]
      rfl

theorem tokens?_of_wordToken? {more : List Char} {token : Token}
    (starts : start c = some (.word [c], [])) (lower : more.all Char.isLower = true)
    (word : wordToken? (c :: more).reverse = some token) (ends : EndsToken rest) :
    between.tokens? (c :: more ++ rest) = (between.tokens? rest).map (token :: ·) := by
  rw [List.cons_append, tokens?_cons_of_silent between starts,
    tokens?_word_append (List.all_eq_true.mp lower), ← List.reverse_cons, tokens?_word word ends]

/-- A size starts with the digit with which a number would start. -/
theorem start_of_next?_sign {phase : NumberPhase} (goesOn : NumberPhase.sign.next? c = some phase) :
    start c = some (.number phase [c], []) := by
  by_cases zero : c = '0'
  · subst zero
    cases goesOn
    rfl
  · have goesOnDigit : (if c.isDigit then some NumberPhase.whole else none) = some phase := by
      rw [← goesOn]
      exact (if_neg zero).symm
    split at goesOnDigit
    · next isDigit =>
      have notMinus : c ≠ '-' := by
        rintro rfl
        cases isDigit
      cases goesOnDigit
      rw [start_of_isDigit isDigit, NumberPhase.start?, if_neg notMinus, if_neg zero,
        if_pos isDigit]
      rfl
    · cases goesOnDigit

theorem tokens?_numberText {literal : List Char} (number : NumberText literal)
    (ends : EndsToken rest) :
    between.tokens? (literal ++ rest) =
      (between.tokens? rest).map (.scalar (.number literal) :: ·) := by
  cases number with
  | positive isMagnitude =>
      obtain ⟨last, runs, complete⟩ := NumberPhase.completes_sign_iff.mpr isMagnitude
      cases literal with
      | nil =>
          -- Without a digit the number would end in the phase of its sign.
          cases runs
          cases complete
      | cons c more =>
          obtain ⟨phase, goesOn, runs⟩ := Option.bind_eq_some_iff.mp runs
          rw [List.cons_append, tokens?_cons_of_silent between
            (start_of_next?_sign goesOn), tokens?_number_append runs, tokens?_number complete ends,
            List.reverse_append, List.reverse_reverse]
          rfl
  | @negative size isMagnitude =>
      obtain ⟨last, runs, complete⟩ := NumberPhase.completes_sign_iff.mpr isMagnitude
      rw [List.cons_append, tokens?_cons_of_silent between rfl,
        tokens?_number_append runs, tokens?_number complete ends, List.reverse_append,
        List.reverse_reverse]
      rfl

/-- A character that is a token by itself. -/
theorem tokens?_mark {token : Token} (starts : start c = some (.between, [token])) :
    between.tokens? ([c] ++ rest) = (between.tokens? rest).map (token :: ·) :=
  tokens?_cons_of_step between starts

/-- A lexeme is read as its token. One without an end of its own must be followed by one. -/
theorem tokens?_lexeme {lexeme : List Char} {token : Token} (written : Lexeme lexeme token)
    (ends : token.isScalar = true → EndsToken rest) :
    between.tokens? (lexeme ++ rest) = (between.tokens? rest).map (token :: ·) := by
  cases written with
  | openArray => exact tokens?_mark rfl
  | closeArray => exact tokens?_mark rfl
  | openObject => exact tokens?_mark rfl
  | closeObject => exact tokens?_mark rfl
  | comma => exact tokens?_mark rfl
  | colon => exact tokens?_mark rfl
  | null => exact tokens?_of_wordToken? rfl rfl rfl (ends rfl)
  | true => exact tokens?_of_wordToken? rfl rfl rfl (ends rfl)
  | false => exact tokens?_of_wordToken? rfl rfl rfl (ends rfl)
  | number number => exact tokens?_numberText number (ends rfl)
  | @string body pieces stringBody =>
      have quote : (Lexing.string (pieces.reverse ++ [])).step '"' =
          some (.between, [.string (Piece.text? pieces)]) := by
        rw [List.append_nil, step, if_pos rfl, List.reverse_reverse]
      rw [List.append_assoc, List.cons_append, tokens?_cons_of_silent between rfl,
        tokens?_stringBody stringBody, List.singleton_append, tokens?_cons_of_step _ quote]
      rfl

/-- The lexer gives back the tokens of a text in which no two scalars meet. -/
theorem tokens?_of_spaced {text : List Char} {tokens : List Token} (spaced : Spaced text tokens)
    (separated : Separated tokens) : between.tokens? text = some tokens := by
  induction spaced with
  | done => rfl
  | blank space _ ih =>
      have skipped : start _ = some (.between, []) := if_pos space
      rw [tokens?_cons_of_silent between skipped]
      exact ih separated
  | @token lexeme text token tokens written rest ih =>
      obtain ⟨next, separated⟩ := List.isChain_cons.mp separated
      have ends : token.isScalar = true → EndsToken text := by
        intro scalar
        apply endsToken_of_spaced rest
        intro other head
        simpa [scalar] using next other head
      rw [tokens?_lexeme written ends, ih separated]
      rfl

/-! ### What is left of a text -/

/-- The characters end the token that is under way. -/
inductive Finishes : Lexing → List Char → Token → Prop where
  | word {letters more : List Char} {token : Token}
      (word : wordToken? (more.reverse ++ letters) = some token) :
      Finishes (.word letters) more token
  | number {phase : NumberPhase} {digits more : List Char} (completes : phase.Completes more) :
      Finishes (.number phase digits) more (.scalar (.number (digits.reverse ++ more)))
  | string {pieces others : List Piece} {body : List Char} (stringBody : StringBody body others) :
      Finishes (.string pieces) (body ++ ['"']) (.string (Piece.text? (pieces.reverse ++ others)))
  | letter {pieces : List Piece} {letter c : Char} {more : List Char} {token : Token}
      (meant : escaped? letter = some c) (rest : Finishes (.string (.char c :: pieces)) more token) :
      Finishes (.escape pieces) (letter :: more) token
  | escapeUnit {pieces : List Piece} {more : List Char} {token : Token}
      (rest : Finishes (.unit pieces 4 0) more token) : Finishes (.escape pieces) ('u' :: more) token
  | unit {pieces : List Piece} {missing code unit : Nat} {digits more : List Char} {token : Token}
      (length : digits.length = max 1 missing) (spells : hexCode? code digits = some unit)
      (rest : Finishes (.string (.unit unit :: pieces)) more token) :
      Finishes (.unit pieces missing code) (digits ++ more) token

/-- The characters end the token that is under way, if any, and go on with these tokens. -/
inductive Remains : Lexing → List Char → List Token → Prop where
  | between {text : List Char} {tokens : List Token} (spaced : Spaced text tokens) :
      Remains .between text tokens
  | underWay {state : Lexing} {more text : List Char} {token : Token} {tokens : List Token}
      (finishes : Finishes state more token) (spaced : Spaced text tokens) :
      Remains state (more ++ text) (token :: tokens)

theorem Remains.spaced {text : List Char} {tokens : List Token}
    (remains : Remains .between text tokens) : Spaced text tokens := by
  cases remains with
  | between spaced => exact spaced
  | underWay finishes => cases finishes

/-- A word is spelled with its letters. -/
theorem lexeme_of_wordToken? {letters : List Char} {token : Token}
    (word : wordToken? letters = some token) : Lexeme letters.reverse token := by
  unfold wordToken? at word
  split at word
  · next spelled =>
    cases word
    exact spelled ▸ .null
  · next spelled =>
    cases word
    exact spelled ▸ .true
  · next spelled =>
    cases word
    exact spelled ▸ .false
  · cases word

theorem numberText_of_start? {phase : NumberPhase} {more : List Char}
    (starts : NumberPhase.start? c = some phase) (completes : phase.Completes more) :
    NumberText (c :: more) := by
  unfold NumberPhase.start? at starts
  split_ifs at starts with minus zero digit
  · cases starts
    subst minus
    exact .negative completes.isMagnitude
  · cases starts
    refine .positive (NumberPhase.Completes.isMagnitude ?_)
    exact NumberPhase.completes_cons.mpr ⟨.zero, if_pos zero, completes⟩
  · cases starts
    refine .positive (NumberPhase.Completes.isMagnitude ?_)
    refine NumberPhase.completes_cons.mpr ⟨.whole, ?_, completes⟩
    simp [NumberPhase.next?, zero, digit]

/-- What starts a token, with what ends it behind it, is a text. -/
theorem spaced_of_start {text : List Char} {done tokens : List Token}
    (starts : start c = some (next, done)) (remains : Remains next text tokens) :
    Spaced (c :: text) (done ++ tokens) := by
  unfold start at starts
  split_ifs at starts with space openArray closeArray openObject closeObject comma colon quote lower
  · cases starts
    exact .blank space remains.spaced
  · cases starts
    subst openArray
    exact .cons .openArray remains.spaced
  · cases starts
    subst closeArray
    exact .cons .closeArray remains.spaced
  · cases starts
    subst openObject
    exact .cons .openObject remains.spaced
  · cases starts
    subst closeObject
    exact .cons .closeObject remains.spaced
  · cases starts
    subst comma
    exact .cons .comma remains.spaced
  · cases starts
    subst colon
    exact .cons .colon remains.spaced
  · cases starts
    subst quote
    cases remains with
    | underWay finishes spaced =>
        cases finishes with
        | string stringBody => exact .token (.string stringBody) spaced
  · cases starts
    cases remains with
    | @underWay _ more _ _ _ finishes spaced =>
        cases finishes with
        | word word =>
            rw [← List.reverse_cons] at word
            have written := lexeme_of_wordToken? word
            rw [List.reverse_reverse] at written
            exact .token written spaced
  · obtain ⟨phase, first, started⟩ := Option.map_eq_some_iff.mp starts
    cases started
    cases remains with
    | @underWay _ more _ _ _ finishes spaced =>
        cases finishes with
        | number completes => exact .token (.number (numberText_of_start? first completes)) spaced

section Steps

variable {state : Lexing} {text : List Char} {done tokens : List Token}

/-- A character of the token that is under way. -/
theorem Remains.cons (remains : Remains next text tokens) (notBetween : next ≠ Lexing.between)
    (goesOn : ∀ {more token}, Finishes next more token → Finishes state (c :: more) token) :
    Remains state (c :: text) tokens := by
  cases remains with
  | between => exact absurd rfl notBetween
  | underWay finishes spaced =>
      rw [← List.cons_append]
      exact .underWay (goesOn finishes) spaced

/-- A character behind the token that is under way. -/
theorem remains_of_flush {token? : Option Token}
    (finishes : ∀ token, token? = some token → Finishes state [] token)
    (step : (do
      let token ← token?
      let (next, done) ← start c
      return (next, token :: done)) = some (next, done))
    (remains : Remains next text tokens) : Remains state (c :: text) (done ++ tokens) := by
  obtain ⟨token, finished, step⟩ := Option.bind_eq_some_iff.mp step
  obtain ⟨⟨started, others⟩, starts, step⟩ := Option.bind_eq_some_iff.mp step
  cases step
  rw [List.cons_append, ← List.nil_append (c :: text)]
  exact .underWay (finishes token finished) (spaced_of_start starts remains)

theorem finishes_of_wordToken? {letters : List Char} {token : Token}
    (word : wordToken? letters = some token) : Finishes (.word letters) [] token :=
  .word word

theorem finishes_of_numberToken? {phase : NumberPhase} {digits : List Char} {token : Token}
    (number : numberToken? phase digits = some token) :
    Finishes (.number phase digits) [] token := by
  unfold numberToken? at number
  split_ifs at number with complete
  cases number
  rw [← List.append_nil digits.reverse]
  exact .number (NumberPhase.completes_nil.mpr complete)

theorem remains_of_step_word {letters : List Char}
    (step : (word letters).step c = some (next, done)) (remains : Remains next text tokens) :
    Remains (word letters) (c :: text) (done ++ tokens) := by
  by_cases lower : c.isLower = true
  · simp only [Lexing.step, lower, if_true] at step
    cases step
    refine remains.cons (by simp) ?_
    intro more token finishes
    cases finishes with
    | word word => exact .word (by simpa using word)
  · simp only [Lexing.step, lower] at step
    exact remains_of_flush (fun _ => finishes_of_wordToken?) step remains

theorem remains_of_step_number {phase : NumberPhase} {digits : List Char}
    (step : (number phase digits).step c = some (next, done)) (remains : Remains next text tokens) :
    Remains (number phase digits) (c :: text) (done ++ tokens) := by
  cases goesOn : phase.next? c with
  | some later =>
      simp only [Lexing.step, goesOn] at step
      cases step
      refine remains.cons (by simp) ?_
      intro more token finishes
      cases finishes with
      | number completes =>
          rw [List.reverse_cons, List.append_assoc]
          exact .number (NumberPhase.completes_cons.mpr ⟨later, goesOn, completes⟩)
  | none =>
      simp only [Lexing.step, goesOn] at step
      exact remains_of_flush (fun _ => finishes_of_numberToken?) step remains

/-- What is left of a string, before one more of its pieces. -/
theorem Finishes.string_append {piece : Piece} {pieces : List Piece} {front more : List Char}
    {token : Token} (finishes : Finishes (.string (piece :: pieces)) more token)
    (written : ∀ {body others}, StringBody body others →
      StringBody (front ++ body) (piece :: others)) :
    Finishes (.string pieces) (front ++ more) token := by
  cases finishes with
  | string stringBody =>
      rw [List.reverse_cons, List.append_assoc, ← List.append_assoc front]
      exact .string (written stringBody)

theorem remains_of_step_string {pieces : List Piece}
    (step : (string pieces).step c = some (next, done)) (remains : Remains next text tokens) :
    Remains (string pieces) (c :: text) (done ++ tokens) := by
  simp only [Lexing.step] at step
  split_ifs at step with quote backslash control
  · cases step
    subst quote
    have finishes : Finishes (.string pieces) ['"'] (.string (Piece.text? pieces.reverse)) := by
      simpa using Finishes.string .nil
    exact .underWay finishes remains.spaced
  · cases step
    subst backslash
    refine remains.cons (by simp) ?_
    intro more token finishes
    cases finishes with
    | @letter _ letter _ more _ meant rest =>
        show Finishes _ (['\\', letter] ++ more) _
        exact rest.string_append (.letter meant)
    | escapeUnit rest =>
        cases rest with
        | @unit _ _ _ _ digits more _ length spells rest =>
            show Finishes _ ('\\' :: 'u' :: digits ++ more) _
            exact rest.string_append (.unit length spells)
  · cases step
    refine remains.cons (by simp) ?_
    intro more token finishes
    show Finishes _ ([c] ++ more) _
    exact finishes.string_append (.char (Nat.le_of_not_lt control) quote backslash)

theorem remains_of_step_escape {pieces : List Piece}
    (step : (escape pieces).step c = some (next, done)) (remains : Remains next text tokens) :
    Remains (escape pieces) (c :: text) (done ++ tokens) := by
  by_cases unit : c = 'u'
  · subst unit
    cases step
    exact remains.cons (by simp) .escapeUnit
  · simp only [Lexing.step, unit, if_false] at step
    obtain ⟨meant, means, step⟩ := Option.map_eq_some_iff.mp step
    cases step
    exact remains.cons (by simp) (.letter means)

theorem remains_of_step_unit {pieces : List Piece} {missing code : Nat}
    (step : (unit pieces missing code).step c = some (next, done))
    (remains : Remains next text tokens) :
    Remains (unit pieces missing code) (c :: text) (done ++ tokens) := by
  obtain ⟨digit, hex, step⟩ := Option.map_eq_some_iff.mp step
  dsimp only at step
  split_ifs at step with last
  · cases step
    refine remains.cons (by simp) ?_
    intro more token finishes
    have spells : hexCode? code [c] = some (code * 16 + digit) := by simp [hexCode?, hex]
    show Finishes _ ([c] ++ more) _
    exact .unit (by simp; omega) spells finishes
  · cases step
    refine remains.cons (by simp) ?_
    intro more token finishes
    cases finishes with
    | @unit _ _ _ unit digits more _ length spells rest =>
        have spellsAll : hexCode? code (c :: digits) = some unit := by
          simpa [hexCode?, hex] using spells
        rw [← List.cons_append]
        exact .unit (by simp; omega) spellsAll rest

/-- A character takes away from what is left of a text, and adds the tokens that it ends. -/
theorem remains_of_step (step : state.step c = some (next, done))
    (remains : Remains next text tokens) : Remains state (c :: text) (done ++ tokens) := by
  cases state with
  | between => exact .between (spaced_of_start step remains)
  | word letters => exact remains_of_step_word step remains
  | number phase digits => exact remains_of_step_number step remains
  | string pieces => exact remains_of_step_string step remains
  | escape pieces => exact remains_of_step_escape step remains
  | unit pieces missing code => exact remains_of_step_unit step remains

theorem remains_of_finish (finish : state.finish = some tokens) : Remains state [] tokens := by
  cases state with
  | between =>
      cases finish
      exact .between .done
  | word letters =>
      obtain ⟨token, word, rfl⟩ := Option.map_eq_some_iff.mp finish
      exact .underWay (finishes_of_wordToken? word) .done
  | number phase digits =>
      obtain ⟨token, number, rfl⟩ := Option.map_eq_some_iff.mp finish
      exact .underWay (finishes_of_numberToken? number) .done
  | string => cases finish
  | escape => cases finish
  | unit => cases finish

/-- What the lexer accepts is left of a text. -/
theorem remains_of_tokens? (accepts : state.tokens? text = some tokens) :
    Remains state text tokens := by
  induction text generalizing state tokens with
  | nil => exact remains_of_finish accepts
  | cons c text ih =>
      obtain ⟨⟨next, done⟩, step, accepts⟩ := Option.bind_eq_some_iff.mp accepts
      obtain ⟨more, acceptsMore, appended⟩ := Option.bind_eq_some_iff.mp accepts
      cases appended
      exact remains_of_step step (ih acceptsMore)

/-- A text that the lexer accepts is made of the tokens that it gives back. -/
theorem spaced_of_tokens? (accepts : between.tokens? text = some tokens) : Spaced text tokens :=
  (remains_of_tokens? accepts).spaced

end Steps

end Lexing

end AddRate.Json
