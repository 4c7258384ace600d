import AddRate.Cli
import AddRate.Proofs.Diagnostics

/-!
# The start of a process

A process first sets up its diagnostics and then reads its arguments, up to the one that asks for a
listing of adapters. It is stopped if either cannot be done, and knows whether to list the adapters
otherwise. Arguments that are texts can always be read.
-/

namespace AddRate.Cli

/-! ## What can go wrong -/

/-- Among the arguments that a process reads, which are those up to one that asks for a listing, there
is one that is no text. -/
def UnreadableArgument (arguments : List ByteArray) : Prop :=
  ∃ before argument after, arguments = before ++ argument :: after ∧
    "--list-adapters".toUTF8 ∉ before ∧ String.fromUTF8? argument = none

/-- A process cannot start: its diagnostics cannot be set up or its arguments cannot be read. -/
def Unstartable (arguments : List ByteArray) (environment : Environment) : Prop :=
  (∃ trap, Diagnostics.Filter.ofEnvironment environment = .error trap) ∨
    UnreadableArgument arguments

theorem fromUTF8?_eq_some_iff {bytes : ByteArray} {text : String} :
    String.fromUTF8? bytes = some text ↔ bytes = text.toUTF8 := by
  constructor
  · intro read
    unfold String.fromUTF8? at read
    split at read
    · cases read
      rfl
    · cases read
  · rintro rfl
    simp [String.fromUTF8?, String.fromUTF8, text.isValidUTF8]

/-! ## Arguments -/

section Startup

variable {arguments : List ByteArray} {environment : Environment}

/-- An argument that is a text and does not ask for a listing is passed over. -/
theorem asksListing_cons {argument : ByteArray} {text : String} (rest : List ByteArray)
    (read : String.fromUTF8? argument = some text) (other : argument ≠ listingArgument.toUTF8) :
    asksListing (argument :: rest) = asksListing rest := by
  have ne : text ≠ listingArgument := by
    rintro rfl
    exact other (fromUTF8?_eq_some_iff.mp read)
  simp [asksListing, read, ne]

theorem asksListing_of_unreadable (unreadable : UnreadableArgument arguments) :
    asksListing arguments = .error .invalidText := by
  obtain ⟨before, argument, after, rfl, unlisted, unread⟩ := unreadable
  induction before with
  | nil => simp [asksListing, unread]
  | cons first rest ih =>
      have others : listingArgument.toUTF8 ∉ rest := fun member =>
        unlisted (List.mem_cons_of_mem _ member)
      cases read : String.fromUTF8? first with
      | none => simp [asksListing, read]
      | some text =>
          have ne : first ≠ listingArgument.toUTF8 := by
            rintro rfl
            exact unlisted List.mem_cons_self
          rw [List.cons_append, asksListing_cons _ read ne]
          exact ih others

theorem exists_asksListing_of_readable (readable : ¬UnreadableArgument arguments) :
    ∃ asks, asksListing arguments = .ok asks ∧
      (asks = true ↔ listingArgument.toUTF8 ∈ arguments) := by
  induction arguments with
  | nil => exact ⟨false, rfl, by simp⟩
  | cons argument rest ih =>
      cases read : String.fromUTF8? argument with
      | none => exact absurd ⟨[], argument, rest, rfl, List.not_mem_nil, read⟩ readable
      | some text =>
          by_cases asks : argument = listingArgument.toUTF8
          · cases (fromUTF8?_eq_some_iff.mpr asks).symm.trans read
            exact ⟨true, by simp [asksListing, read], by simp [asks]⟩
          · have readableRest : ¬UnreadableArgument rest := by
              rintro ⟨before, unread, after, rfl, unlisted, noText⟩
              apply readable
              exact ⟨argument :: before, unread, after, rfl,
                List.not_mem_cons_of_ne_of_not_mem (Ne.symm asks) unlisted, noText⟩
            obtain ⟨answer, eq, asked⟩ := ih readableRest
            rw [asksListing_cons rest read asks, List.mem_cons, or_iff_right (Ne.symm asks)]
            exact ⟨answer, eq, asked⟩

/-! ## Startup -/

theorem startup_of_unstartable (unstartable : Unstartable arguments environment) :
    ∃ trap, startup arguments environment = .error trap := by
  cases ready : Diagnostics.Filter.ofEnvironment environment with
  | error trap => exact ⟨trap, by rw [startup, ready]; rfl⟩
  | ok filter =>
      rcases unstartable with ⟨trap, unready⟩ | unreadable
      · cases ready.symm.trans unready
      · exact ⟨_, by rw [startup, ready, asksListing_of_unreadable unreadable]; rfl⟩

theorem exists_startup_of_startable (startable : ¬Unstartable arguments environment) :
    ∃ asks, startup arguments environment = .ok asks ∧
      (asks = true ↔ listingArgument.toUTF8 ∈ arguments) := by
  obtain ⟨ready, readable⟩ := not_or.mp startable
  cases set : Diagnostics.Filter.ofEnvironment environment with
  | error trap => exact absurd ⟨trap, set⟩ ready
  | ok filter =>
      obtain ⟨asks, eq, asked⟩ := exists_asksListing_of_readable readable
      exact ⟨asks, by rw [startup, set, eq]; rfl, asked⟩

theorem startup_of_not_mem (startable : ¬Unstartable arguments environment)
    (unlisted : listingArgument.toUTF8 ∉ arguments) :
    startup arguments environment = .ok false := by
  obtain ⟨asks, eq, asked⟩ := exists_startup_of_startable startable
  rw [eq, Bool.eq_false_iff.mpr (mt asked.mp unlisted)]

/-! ## Arguments that are texts -/

/-- Arguments that are texts can be read. -/
theorem not_unreadableArgument_commandLine (arguments : List String) :
    ¬UnreadableArgument (commandLine arguments) := by
  rintro ⟨before, argument, after, split, -, unread⟩
  have member : argument ∈ commandLine arguments := by simp [split]
  obtain ⟨text, -, rfl⟩ := List.mem_map.mp member
  rw [fromUTF8?_eq_some_iff.mpr rfl] at unread
  cases unread

/-- With texts for arguments and without a filter in the environment a process starts. -/
theorem not_unstartable_commandLine (arguments : List String)
    (unset : environment.text? "RUST_LOG" = none) :
    ¬Unstartable (commandLine arguments) environment := by
  rintro (⟨trap, stopped⟩ | unreadable)
  · obtain ⟨text, set, -⟩ := Diagnostics.Filter.exists_shifted_of_ofEnvironment stopped
    cases unset.symm.trans set
  · exact not_unreadableArgument_commandLine arguments unreadable

theorem listingArgument_mem_commandLine_iff (arguments : List String) :
    listingArgument.toUTF8 ∈ commandLine arguments ↔ listingArgument ∈ arguments := by
  have other : programName ≠ listingArgument := by decide
  simp [commandLine, other, eq_comm (a := listingArgument.toByteArray), String.toByteArray_inj]

end Startup

end AddRate.Cli
