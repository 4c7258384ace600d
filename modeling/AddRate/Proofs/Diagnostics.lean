import AddRate.Diagnostics.Filter
import AddRate.Proofs.Text.Blank

/-!
# Filters that can be set up

The places in a directive are counted behind the blanks in front of it, but its parts are cut from the
whole of it. If there is such a blank, a place may lie inside a character. Without one, or among
characters of one byte, every place is between two characters. So only a directive that begins with a
blank and goes beyond ASCII can keep a filter from being set up.
-/

namespace AddRate

namespace Text

/-! ## Places between characters -/

/-- The number of bytes of some characters. -/
def byteLength : List Char → Nat
  | [] => 0
  | c :: rest => c.utf8Size + byteLength rest

@[simp] theorem byteLength_nil : byteLength [] = 0 :=
  rfl

@[simp] theorem byteLength_cons (c : Char) (rest : List Char) :
    byteLength (c :: rest) = c.utf8Size + byteLength rest :=
  rfl

@[simp] theorem byteLength_append (front behind : List Char) :
    byteLength (front ++ behind) = byteLength front + byteLength behind := by
  induction front with
  | nil => simp
  | cons c rest ih => simp [ih, Nat.add_assoc]

/-- A place is at an end of a text or between two of its characters. -/
def IsBoundary (text : List Char) (place : Nat) : Prop :=
  ∃ front, front <+: text ∧ byteLength front = place

theorem dropBytes?_cons (count : Nat) (c : Char) (rest : List Char) :
    dropBytes? (c.utf8Size + count) (c :: rest) = dropBytes? count rest := by
  obtain ⟨less, eq⟩ := Nat.exists_eq_add_one_of_ne_zero (Nat.ne_of_gt c.utf8Size_pos)
  simp [eq, Nat.add_right_comm less 1 count, dropBytes?]

theorem takeBytes?_cons (count : Nat) (c : Char) (rest : List Char) :
    takeBytes? (c.utf8Size + count) (c :: rest) = (takeBytes? count rest).map (c :: ·) := by
  obtain ⟨less, eq⟩ := Nat.exists_eq_add_one_of_ne_zero (Nat.ne_of_gt c.utf8Size_pos)
  simp [eq, Nat.add_right_comm less 1 count, takeBytes?]

@[simp] theorem dropBytes?_zero (text : List Char) : dropBytes? 0 text = some text := by
  cases text <;> rfl

@[simp] theorem takeBytes?_zero (text : List Char) : takeBytes? 0 text = some [] := by
  cases text <;> rfl

theorem dropBytes?_append (front behind : List Char) :
    dropBytes? (byteLength front) (front ++ behind) = some behind := by
  induction front with
  | nil => simp
  | cons c rest ih => simpa [dropBytes?_cons] using ih

theorem takeBytes?_append (front behind : List Char) :
    takeBytes? (byteLength front) (front ++ behind) = some front := by
  induction front with
  | nil => simp
  | cons c rest ih => simp [takeBytes?_cons, ih]

/-- A text can be cut at its boundaries. -/
theorem isSome_dropBytes? {text : List Char} {start : Nat} (begins : IsBoundary text start) :
    (dropBytes? start text).isSome = true := by
  obtain ⟨front, ⟨behind, rfl⟩, rfl⟩ := begins
  simp [dropBytes?_append]

theorem isSome_cut? {text : List Char} {start stop : Nat} (begins : IsBoundary text start)
    (ends : IsBoundary text stop) : (cut? text start stop).isSome = true := by
  obtain ⟨front, ⟨behind, rfl⟩, rfl⟩ := begins
  obtain ⟨whole, isPrefix, rfl⟩ := ends
  simp only [cut?, dropBytes?_append, bind, Option.bind_some]
  rcases List.prefix_or_prefix_of_prefix (List.prefix_append front behind) isPrefix with
    ⟨part, rfl⟩ | ⟨part, rfl⟩
  · obtain ⟨rest, rfl⟩ := (List.prefix_append_right_inj front).mp isPrefix
    simp [takeBytes?_append]
  · -- The part ends where it begins or before that, so it is empty.
    simp

theorem byteLength_of_ascii {text : List Char} (ascii : ∀ c ∈ text, c.toNat < 0x80) :
    byteLength text = text.length := by
  induction text with
  | nil => rfl
  | cons c rest ih =>
      have size : c.utf8Size = 1 :=
        Char.utf8Size_eq_one_iff.mpr
          (UInt32.le_iff_toNat_le.mpr (Nat.le_of_lt_succ (ascii c List.mem_cons_self)))
      simp [size, ih fun d member => ascii d (List.mem_cons_of_mem c member), Nat.add_comm]

/-- Every place in an ASCII text is a boundary. -/
theorem isBoundary_of_ascii {text : List Char} (ascii : ∀ c ∈ text, c.toNat < 0x80) {place : Nat}
    (inside : place ≤ text.length) : IsBoundary text place := by
  refine ⟨text.take place, List.take_prefix place text, ?_⟩
  rw [byteLength_of_ascii fun c member => ascii c (List.mem_of_mem_take member),
    List.length_take, Nat.min_eq_left inside]

end Text

namespace Diagnostics

open Text

namespace Directive

/-! ## Answers of the reader -/

/-- The reader was not stopped: there is an answer with a property, or the directive is malformed. -/
def Answers {α : Type} (property : α → Prop) : Except Failure α → Prop
  | .ok value => property value
  | .error failure => failure = .malformed

section Answers

variable {α β : Type} {property : α → Prop} {behind : β → Prop} {answer : Except Failure α}

theorem Answers.bind {next : α → Except Failure β} (answers : Answers property answer)
    (each : ∀ value, property value → Answers behind (next value)) :
    Answers behind (answer >>= next) := by
  cases answer with
  | ok value => exact each value answers
  | error failure => exact answers

theorem Answers.ne_splitCharacter (answers : Answers property answer) :
    answer ≠ .error .splitCharacter := by
  rintro rfl
  cases answers

theorem answers_orMalformed (read : Option α) : Answers (fun _ => True) (orMalformed read) := by
  cases read with
  | none => rfl
  | some value => trivial

end Answers

/-! ## Reading a directive -/

/-- Where the part begins that is being read. -/
def Phase.begins? : Phase → Option Nat
  | .levelOrTarget first | .inSpan first | .inField first | .inLevel first => some first
  | .start | .afterField | .afterSpan => none

/-- The part that is being read begins at a boundary. -/
def Phase.Placed (text : List Char) (phase : Phase) : Prop :=
  ∀ first ∈ phase.begins?, IsBoundary text first

section Reading

variable {text chars : List Char} {directive : Directive} {phase : Phase} {first place : Nat}

theorem placed_of_begins?_eq_some (begins : phase.begins? = some first)
    (boundary : IsBoundary text first) : phase.Placed text := by
  simpa [Phase.Placed, begins] using boundary

theorem placed_of_begins?_eq_none (begins : phase.begins? = none) : phase.Placed text := by
  simp [Phase.Placed, begins]

theorem answers_part (begins : IsBoundary text first) (ends : IsBoundary text place) :
    Answers (fun _ => True) (part text first place) := by
  obtain ⟨cut, eq⟩ := Option.isSome_iff_exists.mp (isSome_cut? begins ends)
  simp [part, eq, Answers]

theorem answers_lastPart (begins : IsBoundary text first) :
    Answers (fun _ => True) (lastPart text first) := by
  obtain ⟨cut, eq⟩ := Option.isSome_iff_exists.mp (isSome_dropBytes? begins)
  simp [lastPart, eq, Answers]

/-- A character between two boundaries leaves the part that is being read at a boundary. -/
theorem answers_readChar (placed : phase.Placed text) (here : IsBoundary text place) (c : Char)
    (next : IsBoundary text (place + c.utf8Size)) :
    Answers (fun read => read.2.Placed text) (readChar text directive phase place c) := by
  unfold readChar
  -- One case for each line of the reader; where a part ends, it is cut out first.
  split
  · exact placed_of_begins?_eq_some rfl next
  · split
    · exact placed_of_begins?_eq_some rfl here
    · rfl
  · apply (answers_part (placed _ rfl) here).bind
    intro target _
    exact placed_of_begins?_eq_some rfl next
  · apply (answers_part (placed _ rfl) here).bind
    intro target _
    exact placed_of_begins?_eq_some rfl next
  · apply (answers_part (placed _ rfl) here).bind
    intro span _
    exact placed_of_begins?_eq_none rfl
  · apply (answers_part (placed _ rfl) here).bind
    intro span _
    exact placed_of_begins?_eq_some rfl next
  · apply (answers_part (placed _ rfl) here).bind
    intro field _
    split
    · rfl
    · apply (answers_orMalformed _).bind
      intro read _
      exact placed_of_begins?_eq_none rfl
  · exact placed_of_begins?_eq_none rfl
  · exact placed_of_begins?_eq_some rfl next
  · rfl
  · rfl
  · exact placed

/-- So do characters between which there are boundaries only. -/
theorem answers_readChars (placed : phase.Placed text)
    (boundaries : ∀ front, front <+: chars → IsBoundary text (place + byteLength front)) :
    Answers (fun read => read.2.Placed text) (readChars text directive phase place chars) := by
  induction chars generalizing directive phase place with
  | nil => exact placed
  | cons c rest ih =>
      have here := boundaries [] List.nil_prefix
      have next := boundaries [c] (by simp)
      apply (answers_readChar placed (by simpa using here) c (by simpa using next)).bind
      intro read placed
      apply ih placed
      intro front isPrefix
      have later := boundaries (c :: front) (by simpa using isPrefix)
      simpa [Nat.add_assoc] using later

theorem answers_finish (placed : phase.Placed text) :
    Answers (fun _ => True) (finish text directive phase) := by
  cases phase with
  | levelOrTarget first =>
      apply (answers_lastPart (placed first rfl)).bind
      intro word _
      cases Level.parse? word <;> trivial
  | inLevel first =>
      apply (answers_lastPart (placed first rfl)).bind
      intro word _
      cases word.isEmpty with
      | true => trivial
      | false => exact (answers_orMalformed _).bind fun _ _ => trivial
  | afterSpan => trivial
  | start | inSpan | inField | afterField => rfl

/-- Reading a directive is not stopped if the places in it are boundaries. -/
theorem answers_parse
    (boundaries : ∀ front, front <+: trimChars text → IsBoundary text (byteLength front)) :
    Answers (fun _ => True) (parse text) := by
  apply (answers_readChars (placed_of_begins?_eq_none rfl) _).bind
  · intro read placed
    exact answers_finish placed
  · simpa using boundaries

end Reading

/-- A directive begins with a blank and has a character that is not ASCII. -/
def Shifted (text : List Char) : Prop :=
  (∃ c ∈ text.head?, isBlank c = true) ∧ ∃ c ∈ text, 0x80 ≤ c.toNat

/-- The reader can be stopped by such directives only. -/
theorem shifted_of_parse {text : List Char} (stopped : parse text = .error .splitCharacter) :
    Shifted text := by
  obtain ⟨⟨before, behind, split, -, -⟩, -, -⟩ := isTrim_trimChars text
  constructor
  · by_contra unblank
    have head : ∀ c ∈ text.head?, isBlank c = false := by simpa using unblank
    have starts : trimChars text <+: text := by
      rw [trimChars, dropWhile_isBlank_of_head head]
      exact List.rdropWhile_prefix isBlank text
    have answers : Answers (fun _ => True) (parse text) :=
      answers_parse fun front isPrefix => ⟨front, isPrefix.trans starts, rfl⟩
    exact answers.ne_splitCharacter stopped
  · by_contra narrow
    have ascii : ∀ c ∈ text, c.toNat < 0x80 := by simpa using narrow
    have answers : Answers (fun _ => True) (parse text) := by
      apply answers_parse
      intro front isPrefix
      have part : front <:+: text := by
        rw [split]
        exact isPrefix.isInfix.trans ⟨before, behind, rfl⟩
      apply isBoundary_of_ascii ascii
      rw [byteLength_of_ascii fun c member => ascii c (part.subset member)]
      exact part.length_le
    exact answers.ne_splitCharacter stopped

end Directive

namespace Filter

/-! ## Reading a filter -/

/-- The failure of a list is that of one of its items. -/
theorem exists_mem_of_mapM_eq_error {α β ε : Type} {answer : α → Except ε β} {failure : ε}
    {items : List α} (failed : items.mapM answer = .error failure) :
    ∃ item ∈ items, answer item = .error failure := by
  induction items with
  | nil => cases failed
  | cons item rest ih =>
      rw [List.mapM_cons] at failed
      cases own : answer item with
      | error first =>
          rw [own] at failed
          cases failed
          exact ⟨item, List.mem_cons_self, own⟩
      | ok value =>
          rw [own] at failed
          cases others : rest.mapM answer with
          | ok values =>
              simp [others, bind, Except.bind, pure, Except.pure] at failed
          | error later =>
              rw [others] at failed
              cases failed
              obtain ⟨other, member, eq⟩ := ih others
              exact ⟨other, List.mem_cons_of_mem item member, eq⟩

/-- A filter cannot be set up only if the environment's has such a directive. -/
theorem exists_shifted_of_ofEnvironment {environment : Environment} {trap : Trap}
    (stopped : ofEnvironment environment = .error trap) :
    ∃ text, environment.text? "RUST_LOG" = some text ∧
      ∃ piece ∈ pieces text.toList, Directive.Shifted piece := by
  unfold ofEnvironment at stopped
  cases set : environment.text? "RUST_LOG" with
  | none =>
      rw [set] at stopped
      cases stopped
  | some text =>
      rw [set] at stopped
      refine ⟨text, rfl, ?_⟩
      cases read : (pieces text.toList).mapM Directive.parse with
      | ok directives => simp [parse, read, Except.map] at stopped
      | error failure =>
          cases failure with
          | malformed => simp [parse, read, Except.map] at stopped
          | splitCharacter =>
              obtain ⟨piece, member, eq⟩ := exists_mem_of_mapM_eq_error read
              exact ⟨piece, member, Directive.shifted_of_parse eq⟩

end Filter

end Diagnostics

end AddRate
