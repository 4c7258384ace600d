import AddRate.Json.Reader
import AddRate.Proofs.Json.Lexing

/-!
# Tokens as values

The reader gives back the value whose tokens it reads, and it reads no other tokens to an end: of
any reading one can tell the tokens on the way to it. So a text is read as a value exactly if it is
made of the tokens of that value.
-/

namespace AddRate.Json

/-! ## Reading tokens -/

namespace Reading

variable {frames : List Frame} {rest : List Token}

theorem steps_cons_of_step {reading next : Reading} {token : Token}
    (step : reading.step token = some next) :
    reading.steps (token :: rest) = next.steps rest := by
  rw [steps, step]
  rfl

/-- Tokens that spell a value hand it to the innermost open frame. -/
def Spells (tokens : List Token) (value : Json) : Prop :=
  ∀ frames rest, (Reading.unfinished .value frames).steps (tokens ++ rest) =
    (deliver value frames).bind (·.steps rest)

theorem spells_scalar (value : Json) : Spells [.scalar value] value :=
  fun _ _ => rfl

theorem spells_string (text : Option (List Char)) : Spells [.string text] (.string text) :=
  fun _ _ => rfl

/-- No value starts like the end of an array, so a first item is read like any other. -/
theorem steps_valueOrClose (value : Json) (frames : List Frame) (rest : List Token) :
    (Reading.unfinished .valueOrClose frames).steps (value.tokens ++ rest) =
      (Reading.unfinished .value frames).steps (value.tokens ++ rest) := by
  cases value <;> rfl

/-- Items are read onto those that the array already holds, up to its end. -/
theorem steps_itemTokens {item : Json} {items : List Json}
    (each : ∀ other ∈ item :: items, Spells other.tokens other) (done : List Json) :
    (Reading.unfinished .value (.array done :: frames)).steps
        (itemTokens (item :: items) ++ .closeArray :: rest) =
      (deliver (.array (done.reverse ++ item :: items)) frames).bind (·.steps rest) := by
  have first := each item List.mem_cons_self
  rw [List.append_cons done.reverse, ← List.reverse_cons]
  induction items generalizing item done with
  | nil =>
      rw [itemTokens, first, List.append_nil]
      rfl
  | cons next items ih =>
      have others := fun other member => each other (List.mem_cons_of_mem _ member)
      rw [itemTokens, List.append_assoc, first, List.append_cons (item :: done).reverse,
        ← List.reverse_cons]
      exact ih others (item :: done) (others next List.mem_cons_self)

theorem spells_array {items : List Json} (each : ∀ item ∈ items, Spells item.tokens item) :
    Spells (Json.array items).tokens (.array items) := by
  intro frames rest
  cases items with
  | nil => rfl
  | cons item items =>
      have split : ∃ behind, itemTokens (item :: items) = item.tokens ++ behind := by
        cases items with
        | nil => exact ⟨[], (List.append_nil _).symm⟩
        | cons next items => exact ⟨_, rfl⟩
      obtain ⟨behind, split⟩ := split
      have opened : (Reading.unfinished .value frames).step .openArray =
          some (.unfinished .valueOrClose (.array [] :: frames)) := rfl
      rw [tokens, List.append_assoc, List.cons_append, steps_cons_of_step opened, split,
        List.append_assoc, steps_valueOrClose, ← List.append_assoc, ← split]
      exact steps_itemTokens each []

/-- Members are read onto those that the object already holds, up to its end. -/
theorem steps_memberTokens {member : Option (List Char) × Json}
    {members : List (Option (List Char) × Json)}
    (each : ∀ other ∈ member :: members, Spells other.2.tokens other.2)
    (done : List (Option (List Char) × Json)) :
    (Reading.unfinished .name (.object done :: frames)).steps
        (memberTokens (member :: members) ++ .closeObject :: rest) =
      (deliver (.object (done.reverse ++ member :: members)) frames).bind (·.steps rest) := by
  have first := each member List.mem_cons_self
  rw [List.append_cons done.reverse, ← List.reverse_cons]
  induction members generalizing member done with
  | nil =>
      show (Reading.unfinished .value (.member done member.1 :: frames)).steps
        (member.2.tokens ++ .closeObject :: rest) = _
      rw [first, List.append_nil]
      rfl
  | cons next members ih =>
      have others := fun other member => each other (List.mem_cons_of_mem _ member)
      show (Reading.unfinished .value (.member done member.1 :: frames)).steps
        (member.2.tokens ++ .comma :: memberTokens (next :: members) ++ .closeObject :: rest) = _
      rw [List.append_assoc, first, List.append_cons (member :: done).reverse,
        ← List.reverse_cons]
      exact ih others (member :: done) (others next List.mem_cons_self)

theorem spells_object {members : List (Option (List Char) × Json)}
    (each : ∀ member ∈ members, Spells member.2.tokens member.2) :
    Spells (Json.object members).tokens (.object members) := by
  intro frames rest
  cases members with
  | nil => rfl
  | cons member members =>
      -- A name is read the same whether or not the object might have ended before it.
      have opened : (Reading.unfinished .value frames).steps
            ((Json.object (member :: members)).tokens ++ rest) =
          (Reading.unfinished .name (.object [] :: frames)).steps
            (memberTokens (member :: members) ++ .closeObject :: rest) := by
        rw [tokens, List.append_assoc]
        cases members <;> rfl
      rw [opened]
      exact steps_memberTokens each []

/-- The tokens of a value spell it. -/
theorem spells_tokens (value : Json) : Spells value.tokens value := by
  induction value using forallParts with
  | null => exact spells_scalar .null
  | bool value => exact spells_scalar (.bool value)
  | number literal => exact spells_scalar _
  | string text => exact spells_string text
  | array items each => exact spells_array each
  | object members each => exact spells_object each

theorem ofTokens?_tokens (value : Json) : ofTokens? value.tokens = some value := by
  have spells := spells_tokens value [] []
  rw [List.append_nil] at spells
  show ((Reading.unfinished .value []).steps value.tokens).bind Reading.value? = _
  rw [spells]
  rfl

/-! ## Tokens that were read -/

/-- Items with a comma behind each of them. -/
def itemsBefore (items : List Json) : List Token :=
  items.flatMap fun item => item.tokens ++ [.comma]

/-- Members with a comma behind each of them. -/
def membersBefore (members : List (Option (List Char) × Json)) : List Token :=
  members.flatMap fun member => pairTokens member ++ [.comma]

theorem itemTokens_concat (items : List Json) (last : Json) :
    itemTokens (items ++ [last]) = itemsBefore items ++ last.tokens := by
  rw [itemTokens_eq, List.map_append, List.map_singleton, intercalate_concat, List.flatMap_map]
  rfl

theorem memberTokens_concat (members : List (Option (List Char) × Json))
    (last : Option (List Char) × Json) :
    memberTokens (members ++ [last]) = membersBefore members ++ pairTokens last := by
  rw [memberTokens_eq, List.map_append, List.map_singleton, intercalate_concat, List.flatMap_map]
  rfl

/-- The tokens from the start of a text to the value that is under way in the innermost frame. -/
inductive Enters : List Frame → List Token → Prop where
  | outermost : Enters [] []
  | array {frames : List Frame} {before : List Token} {items : List Json}
      (enters : Enters frames before) :
      Enters (.array items :: frames) (before ++ .openArray :: itemsBefore items.reverse)
  | member {frames : List Frame} {before : List Token}
      {members : List (Option (List Char) × Json)} {name : Option (List Char)}
      (enters : Enters frames before) :
      Enters (.member members name :: frames)
        (before ++ .openObject :: membersBefore members.reverse ++ [.string name, .colon])

/-- The tokens that were read on the way to a reading. -/
inductive Reads : Reading → List Token → Prop where
  | value {frames : List Frame} {before : List Token} (enters : Enters frames before) :
      Reads (.unfinished .value frames) before
  | openArray {frames : List Frame} {before : List Token} (enters : Enters frames before) :
      Reads (.unfinished .valueOrClose (.array [] :: frames)) (before ++ [.openArray])
  | openObject {frames : List Frame} {before : List Token} (enters : Enters frames before) :
      Reads (.unfinished .nameOrClose (.object [] :: frames)) (before ++ [.openObject])
  | name {frames : List Frame} {before : List Token}
      {members : List (Option (List Char) × Json)} (enters : Enters frames before) :
      Reads (.unfinished .name (.object members :: frames))
        (before ++ .openObject :: membersBefore members.reverse)
  | colon {frames : List Frame} {before : List Token}
      {members : List (Option (List Char) × Json)} {name : Option (List Char)}
      (enters : Enters frames before) :
      Reads (.unfinished .colon (.member members name :: frames))
        (before ++ .openObject :: membersBefore members.reverse ++ [.string name])
  | items {frames : List Frame} {before : List Token} {last : Json} {items : List Json}
      (enters : Enters frames before) :
      Reads (.unfinished .separator (.array (last :: items) :: frames))
        (before ++ .openArray :: itemTokens (last :: items).reverse)
  | members {frames : List Frame} {before : List Token} {last : Option (List Char) × Json}
      {members : List (Option (List Char) × Json)} (enters : Enters frames before) :
      Reads (.unfinished .separator (.object (last :: members) :: frames))
        (before ++ .openObject :: memberTokens (last :: members).reverse)
  | done (value : Json) : Reads (.done value) value.tokens

variable {next : Reading} {before : List Token} {token : Token}

/-- A value that is handed over has been read behind what was before it. -/
theorem reads_of_deliver {value : Json} (enters : Enters frames before)
    (delivered : deliver value frames = some next) : Reads next (before ++ value.tokens) := by
  cases enters with
  | outermost =>
      cases delivered
      exact .done value
  | @array frames before items enters =>
      cases delivered
      have reads := @Reads.items frames before value items enters
      rw [List.reverse_cons, itemTokens_concat] at reads
      simpa using reads
  | @member frames before members name enters =>
      cases delivered
      have reads := @Reads.members frames before (name, value) members enters
      rw [List.reverse_cons, memberTokens_concat] at reads
      simpa [pairTokens] using reads

/-- A scalar that can be written is a value of one token. -/
theorem tokens_of_lexeme_scalar {lexeme : List Char} {value : Json}
    (written : Lexeme lexeme (.scalar value)) : value.tokens = [.scalar value] := by
  cases written <;> rfl

theorem reads_of_startValue {lexeme : List Char} (enters : Enters frames before)
    (written : Lexeme lexeme token) (started : startValue frames token = some next) :
    Reads next (before ++ [token]) := by
  cases token with
  | openArray =>
      cases started
      exact .openArray enters
  | openObject =>
      cases started
      exact .openObject enters
  | string text => exact reads_of_deliver enters started
  | scalar value =>
      rw [← tokens_of_lexeme_scalar written]
      exact reads_of_deliver enters started
  | closeArray => cases started
  | closeObject => cases started
  | comma => cases started
  | colon => cases started

/-- The end of an array makes its items a value. -/
theorem reads_of_closeArray {items : List Json} (enters : Enters frames before)
    (closed : close (.array items :: frames) token = some next) :
    Reads next (before ++ .openArray :: itemTokens items.reverse ++ [token]) := by
  cases token with
  | closeArray =>
      have reads := reads_of_deliver enters closed
      simpa [tokens] using reads
  | _ => cases closed

theorem reads_of_closeObject {members : List (Option (List Char) × Json)}
    (enters : Enters frames before)
    (closed : close (.object members :: frames) token = some next) :
    Reads next (before ++ .openObject :: memberTokens members.reverse ++ [token]) := by
  cases token with
  | closeObject =>
      have reads := reads_of_deliver enters closed
      simpa [tokens] using reads
  | _ => cases closed

theorem reads_of_startMember {members : List (Option (List Char) × Json)}
    (enters : Enters frames before)
    (started : startMember (.object members :: frames) token = some next) :
    Reads next (before ++ .openObject :: membersBefore members.reverse ++ [token]) := by
  cases token with
  | string name =>
      cases started
      exact .colon enters
  | _ => cases started

/-- A token is read behind those that were read before it. -/
theorem reads_of_step {lexeme : List Char} {reading : Reading} (reads : Reads reading before)
    (written : Lexeme lexeme token) (step : reading.step token = some next) :
    Reads next (before ++ [token]) := by
  cases reads with
  | value enters => exact reads_of_startValue enters written step
  | @openArray frames before enters =>
      simp only [Reading.step] at step
      split at step
      · simpa [itemTokens] using reads_of_closeArray enters step
      · exact reads_of_startValue enters.array written step
  | openObject enters =>
      simp only [Reading.step] at step
      split at step
      · simpa [memberTokens] using reads_of_closeObject enters step
      · simpa [membersBefore] using reads_of_startMember enters step
  | name enters => exact reads_of_startMember enters step
  | @colon frames before members name enters =>
      simp only [Reading.step] at step
      split at step
      · cases step
        simpa using Reads.value (@Enters.member frames before members name enters)
      · cases step
  | @items frames before last items enters =>
      simp only [Reading.step] at step
      split at step
      · next same =>
        cases step
        have inner := Reads.value (@Enters.array frames before (last :: items) enters)
        rw [List.reverse_cons] at inner ⊢
        rw [itemTokens_concat]
        simpa [itemsBefore] using inner
      · next same => cases same
      · exact reads_of_closeArray enters step
  | @members frames before last members enters =>
      simp only [Reading.step] at step
      split at step
      · next same => cases same
      · next same =>
        cases step
        have inner := @Reads.name frames before (last :: members) enters
        rw [List.reverse_cons] at inner ⊢
        rw [memberTokens_concat]
        simpa [membersBefore] using inner
      · exact reads_of_closeObject enters step
  | done => cases step

theorem reads_of_steps {tokens : List Token} {reading : Reading} (reads : Reads reading before)
    (written : ∀ token ∈ tokens, ∃ lexeme, Lexeme lexeme token)
    (steps : reading.steps tokens = some next) : Reads next (before ++ tokens) := by
  induction tokens generalizing reading before with
  | nil =>
      cases steps
      simpa using reads
  | cons token tokens ih =>
      obtain ⟨middle, step, steps⟩ := Option.bind_eq_some_iff.mp steps
      obtain ⟨lexeme, first⟩ := written token List.mem_cons_self
      rw [List.append_cons]
      exact ih (reads_of_step reads first step)
        (fun other member => written other (List.mem_cons_of_mem _ member)) steps

end Reading

/-- Tokens that can be written are read as a value only if they are those of the value. -/
theorem eq_tokens_of_ofTokens? {tokens : List Token} {value : Json}
    (written : ∀ token ∈ tokens, ∃ lexeme, Lexeme lexeme token)
    (read : ofTokens? tokens = some value) : tokens = value.tokens := by
  obtain ⟨reading, steps, ended⟩ := Option.bind_eq_some_iff.mp read
  have reads := Reading.reads_of_steps (.value .outermost) written steps
  cases reading with
  | unfinished => cases ended
  | done other =>
      cases ended
      generalize eq : [] ++ tokens = all at reads
      cases reads
      exact eq

/-! ## Texts -/

/-- The text is made of the tokens of the value, with blanks wherever there is no token. -/
def SpelledBy (value : Json) (text : List Char) : Prop :=
  Spaced text value.tokens

/-- A text is read as a value exactly if it spells the value. -/
theorem ofChars?_eq_some_iff {text : List Char} {value : Json} :
    ofChars? text = some value ↔ value.SpelledBy text := by
  constructor
  · intro read
    obtain ⟨tokens, lexed, read⟩ := Option.bind_eq_some_iff.mp read
    have spaced := Lexing.spaced_of_tokens? lexed
    rw [eq_tokens_of_ofTokens? spaced.exists_lexeme read] at spaced
    exact spaced
  · intro spelled
    unfold ofChars?
    rw [Lexing.tokens?_of_spaced spelled value.separated_tokens]
    exact Reading.ofTokens?_tokens value

/-- If all tokens of a value can be written, its numbers are numbers. -/
theorem wellFormed_of_lexemes (value : Json)
    (written : ∀ token ∈ value.tokens, ∃ lexeme, Lexeme lexeme token) : value.WellFormed := by
  induction value using forallParts with
  | null => exact .null
  | bool value => exact .bool value
  | number literal =>
      obtain ⟨lexeme, literal⟩ := written _ List.mem_cons_self
      cases literal with
      | number number => exact .number (isNumber_iff.mpr number)
  | string text => exact .string text
  | array items each =>
      refine .array ?_
      intro item among
      apply each item among
      intro token member
      have inner : token ∈ itemTokens items := by
        rw [itemTokens_eq]
        exact subset_intercalate _ (List.mem_map_of_mem among) member
      exact written token (List.mem_cons_of_mem _ (List.mem_append_left _ inner))
  | object members each =>
      refine .object ?_
      intro pair among
      apply each pair among
      intro token member
      have inner : token ∈ memberTokens members := by
        rw [memberTokens_eq]
        apply subset_intercalate _ (List.mem_map_of_mem among)
        simp [pairTokens, member]
      exact written token (List.mem_cons_of_mem _ (List.mem_append_left _ inner))

theorem SpelledBy.wellFormed {value : Json} {text : List Char} (spelled : value.SpelledBy text) :
    value.WellFormed :=
  wellFormed_of_lexemes value spelled.exists_lexeme

end AddRate.Json
