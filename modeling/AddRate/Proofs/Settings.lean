import AddRate.Proofs.Construction
import AddRate.Proofs.Text.Blank
import AddRate.Proofs.Text.Numeral
import Mathlib.Algebra.Group.Nat.Defs

/-!
# Settings

A configuration is read from three settings. Each is a numeral of 32 bits with blanks around it, or
has its default when it is not set. The first that is neither decides the error, and only then do
the numbers have to make a configuration. A variable of a process whose bytes are no text counts as
not set, so it is ignored whatever is in it.
-/

namespace AddRate

namespace Config

/-! ## One setting -/

/-- A setting: its name, the number that it has when it is not set, and the parameter it decides. -/
structure Setting where
  name : String
  fallback : UInt32
  parameter : Config → UInt32

namespace Setting

def threads : Setting := ⟨"INSTRATE_THREADS", defaultThreads, Config.threads⟩

def localSize : Setting := ⟨"INSTRATE_LOCAL_SIZE", defaultLocalSize, Config.localSize⟩

def iterations : Setting := ⟨"INSTRATE_ITERATIONS", defaultIterations, Config.iterations⟩

/-- The settings in the order in which they are read. -/
def all : List Setting := [threads, localSize, iterations]

end Setting

/-- A text that is a numeral with blanks around it, and its value. -/
def IsCount (text : String) (count : Nat) : Prop :=
  ∃ core, Text.IsTrim text.toList core ∧ Text.IsNumeral core count

/-- The number that a setting has. -/
inductive Setting.Reads (setting : Setting) (lookup : String → Option String) : UInt32 → Prop where
  | unset (unset : lookup setting.name = none) : Reads setting lookup setting.fallback
  | set {value : String} {count : UInt32} (set : lookup setting.name = some value)
      (isCount : IsCount value count.toNat) : Reads setting lookup count

/-- A setting has a value in which there is a mistake. -/
structure Setting.Malformed (setting : Setting) (lookup : String → Option String) (value : String)
    (reason : Text.NumeralError) : Prop where
  set : lookup setting.name = some value
  mistake : ∃ core, Text.IsTrim value.toList core ∧ Text.Mistake UInt32.size core reason

theorem uint32_size_pos : 0 < UInt32.size := by decide

theorem readUnsigned_trim_eq_ok_iff {value : String} {count : Nat} :
    Text.readUnsigned UInt32.size (Text.trim value) = .ok count ↔
      IsCount value count ∧ count < UInt32.size := by
  rw [Text.readUnsigned_eq_ok_iff uint32_size_pos, Text.trim, String.toList_ofList]
  constructor
  · rintro ⟨numeral, below⟩
    exact ⟨⟨_, Text.isTrim_trimChars _, numeral⟩, below⟩
  · rintro ⟨⟨core, trimmed, numeral⟩, below⟩
    rw [trimmed.trimChars_eq]
    exact ⟨numeral, below⟩

theorem readUnsigned_trim_eq_error_iff {value : String} {reason : Text.NumeralError} :
    Text.readUnsigned UInt32.size (Text.trim value) = .error reason ↔
      ∃ core, Text.IsTrim value.toList core ∧ Text.Mistake UInt32.size core reason := by
  rw [Text.readUnsigned_eq_error_iff uint32_size_pos, Text.trim, String.toList_ofList]
  constructor
  · intro mistake
    exact ⟨_, Text.isTrim_trimChars _, mistake⟩
  · rintro ⟨core, trimmed, mistake⟩
    rw [trimmed.trimChars_eq]
    exact mistake

namespace Setting

variable {setting : Setting} {lookup : String → Option String} {value : String}

theorem readSetting_of_ok {count : Nat} (set : lookup setting.name = some value)
    (read : Text.readUnsigned UInt32.size (Text.trim value) = .ok count) :
    readSetting lookup setting.name setting.fallback = .ok (.ofNat count) := by
  simp only [readSetting, set, read]

theorem readSetting_of_error {reason : Text.NumeralError} (set : lookup setting.name = some value)
    (read : Text.readUnsigned UInt32.size (Text.trim value) = .error reason) :
    readSetting lookup setting.name setting.fallback =
      .error (.malformed setting.name value reason) := by
  simp only [readSetting, set, read]

theorem readSetting_of_reads {count : UInt32} (reads : setting.Reads lookup count) :
    readSetting lookup setting.name setting.fallback = .ok count := by
  cases reads with
  | unset unset => simp only [readSetting, unset]
  | set set isCount =>
      have read := readUnsigned_trim_eq_ok_iff.mpr ⟨isCount, count.toNat_lt⟩
      rw [readSetting_of_ok set read, UInt32.ofNat_toNat]

theorem readSetting_of_malformed {reason : Text.NumeralError}
    (malformed : setting.Malformed lookup value reason) :
    readSetting lookup setting.name setting.fallback =
      .error (.malformed setting.name value reason) :=
  readSetting_of_error malformed.set (readUnsigned_trim_eq_error_iff.mpr malformed.mistake)

/-- A setting is read, or there is a mistake in its value. -/
theorem reads_or_malformed (setting : Setting) (lookup : String → Option String) :
    (∃ count, setting.Reads lookup count) ∨
      ∃ value reason, setting.Malformed lookup value reason := by
  cases set : lookup setting.name with
  | none => exact .inl ⟨_, .unset set⟩
  | some value =>
      cases read : Text.readUnsigned UInt32.size (Text.trim value) with
      | ok count =>
          obtain ⟨isCount, below⟩ := readUnsigned_trim_eq_ok_iff.mp read
          rw [← UInt32.toNat_ofNat_of_lt' below] at isCount
          exact .inl ⟨.ofNat count, .set set isCount⟩
      | error reason =>
          exact .inr ⟨value, reason, set, readUnsigned_trim_eq_error_iff.mp read⟩

theorem readSetting_eq_ok_iff {count : UInt32} :
    readSetting lookup setting.name setting.fallback = .ok count ↔ setting.Reads lookup count := by
  refine ⟨?_, readSetting_of_reads⟩
  intro read
  rcases setting.reads_or_malformed lookup with ⟨other, reads⟩ | ⟨value, reason, malformed⟩
  · rw [readSetting_of_reads reads] at read
    cases read
    exact reads
  · rw [readSetting_of_malformed malformed] at read
    cases read

end Setting

/-! ## Refused parameters -/

/-- Why parameters make no configuration. -/
inductive Rejects (threads localSize iterations : UInt32) : ConfigError → Prop where
  | notPositive (zero : threads = 0 ∨ localSize = 0 ∨ iterations = 0) :
      Rejects threads localSize iterations (.notPositive threads localSize iterations)
  | notMultiple (positive : 0 < threads ∧ 0 < localSize ∧ 0 < iterations)
      (indivisible : ¬localSize.toNat ∣ threads.toNat) :
      Rejects threads localSize iterations (.notMultiple threads localSize)
  | tooManyElements (positive : 0 < threads ∧ 0 < localSize ∧ 0 < iterations)
      (divides : localSize.toNat ∣ threads.toNat) (large : 2 ^ 30 ≤ localSize.toNat) :
      Rejects threads localSize iterations (.tooManyElements localSize)

theorem make_eq_error_iff {threads localSize iterations : UInt32} {error : ConfigError} :
    make threads localSize iterations = .error error ↔
      Rejects threads localSize iterations error := by
  have positive_iff : ¬(threads = 0 ∨ localSize = 0 ∨ iterations = 0) ↔
      0 < threads ∧ 0 < localSize ∧ 0 < iterations := by
    simp only [UInt32.pos_iff_ne_zero, not_or, ne_eq]
  have divides_iff : threads % localSize ≠ 0 ↔ ¬localSize.toNat ∣ threads.toNat := by
    rw [Nat.dvd_iff_mod_eq_zero, ← UInt32.toNat_mod, ne_eq, ← UInt32.toNat_inj]
    rfl
  have fits_iff : localSize.toNat * vectorWidth < UInt32.size ↔ ¬2 ^ 30 ≤ localSize.toNat := by
    simp only [vectorWidth, UInt32.size]
    omega
  unfold make
  constructor
  · intro made
    split_ifs at made with zero uneven fits
    · cases made
      exact .notPositive zero
    · cases made
      exact .notMultiple (positive_iff.mp zero) (divides_iff.mp uneven)
    · cases made
      have divides := Decidable.not_not.mp (mt divides_iff.mpr uneven)
      exact .tooManyElements (positive_iff.mp zero) divides
        (Decidable.not_not.mp (mt fits_iff.mpr fits))
  · intro rejects
    cases rejects with
    | notPositive zero => rw [if_pos zero]
    | notMultiple positive indivisible =>
        rw [if_neg (positive_iff.mpr positive), if_pos (divides_iff.mpr indivisible)]
    | tooManyElements positive divides large =>
        rw [if_neg (positive_iff.mpr positive), if_neg fun uneven => divides_iff.mp uneven divides,
          if_neg fun fits => fits_iff.mp fits large]

/-! ## All settings -/

/-- The settings are the parameters of a configuration, and the checks let it pass. -/
structure Accepts (lookup : String → Option String) (config : Config) : Prop where
  reads : ∀ setting ∈ Setting.all, setting.Reads lookup (setting.parameter config)
  positive : 0 < config.threads ∧ 0 < config.localSize ∧ 0 < config.iterations
  divides : config.localSize.toNat ∣ config.threads.toNat
  localSize_lt : config.localSize.toNat < 2 ^ 30
  elements : config.elements.toNat = 4 * config.localSize.toNat

/-- Why the settings are no configuration: the first of them that is malformed, or else what is
wrong with their numbers. -/
inductive Refuses (lookup : String → Option String) : ConfigError → Prop where
  | malformed {before after : List Setting} {setting : Setting} {value : String}
      {reason : Text.NumeralError} (order : Setting.all = before ++ setting :: after)
      (earlier : ∀ other ∈ before, ∃ count, other.Reads lookup count)
      (malformed : setting.Malformed lookup value reason) :
      Refuses lookup (.malformed setting.name value reason)
  | rejected {threads localSize iterations : UInt32} {error : ConfigError}
      (threads_reads : Setting.threads.Reads lookup threads)
      (localSize_reads : Setting.localSize.Reads lookup localSize)
      (iterations_reads : Setting.iterations.Reads lookup iterations)
      (rejects : Rejects threads localSize iterations error) : Refuses lookup error

theorem valid_iff {config : Config} :
    config.Valid ↔
      (0 < config.threads ∧ 0 < config.localSize ∧ 0 < config.iterations) ∧
        config.localSize.toNat ∣ config.threads.toNat ∧ config.localSize.toNat < 2 ^ 30 ∧
        config.elements.toNat = 4 * config.localSize.toNat := by
  simp only [UInt32.pos_iff_ne_zero]
  constructor
  · intro valid
    have elements := valid.toNat_elements
    have elements_lt := config.elements.toNat_lt
    simp only [vectorWidth] at elements
    refine ⟨⟨valid.threads_ne_zero, valid.localSize_ne_zero, valid.iterations_ne_zero⟩,
      valid.localSize_dvd, ?_, ?_⟩ <;> omega
  · rintro ⟨⟨threads, localSize, iterations⟩, divides, -, elements⟩
    refine ⟨threads, localSize, iterations, ?_, ?_⟩
    · rw [← UInt32.toNat_inj, UInt32.toNat_mod]
      exact Nat.mod_eq_zero_of_dvd divides
    · rw [elements, Nat.mul_comm]
      rfl

variable {lookup : String → Option String}

theorem ofLookup_eq_ok_iff_accepts {config : Config} :
    ofLookup lookup = .ok config ↔ Accepts lookup config := by
  have readings : (∀ setting ∈ Setting.all, setting.Reads lookup (setting.parameter config)) ↔
      readSetting lookup "INSTRATE_THREADS" defaultThreads = .ok config.threads ∧
        readSetting lookup "INSTRATE_LOCAL_SIZE" defaultLocalSize = .ok config.localSize ∧
        readSetting lookup "INSTRATE_ITERATIONS" defaultIterations = .ok config.iterations := by
    simp only [Setting.all, List.forall_mem_cons, ← Setting.readSetting_eq_ok_iff]
    simp [Setting.threads, Setting.localSize, Setting.iterations]
  rw [ofLookup_eq_ok_iff, valid_iff, ← readings]
  constructor
  · rintro ⟨⟨positive, divides, localSize_lt, elements⟩, reads⟩
    exact ⟨reads, positive, divides, localSize_lt, elements⟩
  · rintro ⟨reads, positive, divides, localSize_lt, elements⟩
    exact ⟨⟨positive, divides, localSize_lt, elements⟩, reads⟩

namespace Accepts

variable {config : Config} {setting : Setting}

theorem parameter_pos (accepts : Accepts lookup config) (listed : setting ∈ Setting.all) :
    0 < setting.parameter config := by
  have all : ∀ setting ∈ Setting.all, 0 < setting.parameter config := by
    simp only [Setting.all, List.forall_mem_cons]
    exact ⟨accepts.positive.1, accepts.positive.2.1, accepts.positive.2.2, List.forall_mem_nil _⟩
  exact all setting listed

/-- A setting with a value decides its parameter. -/
theorem isCount (accepts : Accepts lookup config) (listed : setting ∈ Setting.all)
    {value : String} (set : lookup setting.name = some value) :
    IsCount value (setting.parameter config).toNat := by
  have reads := accepts.reads setting listed
  generalize setting.parameter config = count at reads ⊢
  cases reads with
  | unset unset =>
      rw [set] at unset
      cases unset
  | set other isCount =>
      cases set.symm.trans other
      exact isCount

end Accepts

theorem ofLookup_of_reads {threads localSize iterations : UInt32}
    (threads_reads : Setting.threads.Reads lookup threads)
    (localSize_reads : Setting.localSize.Reads lookup localSize)
    (iterations_reads : Setting.iterations.Reads lookup iterations) :
    ofLookup lookup = make threads localSize iterations := by
  have first := Setting.readSetting_of_reads threads_reads
  have second := Setting.readSetting_of_reads localSize_reads
  have third := Setting.readSetting_of_reads iterations_reads
  simp only [Setting.threads, Setting.localSize, Setting.iterations] at first second third
  rw [ofLookup, first, second, third]
  rfl

/-- The first setting that is malformed decides the error, whatever stands in the later ones. -/
theorem ofLookup_of_malformed {before after : List Setting} {setting : Setting} {value : String}
    {reason : Text.NumeralError} (order : Setting.all = before ++ setting :: after)
    (earlier : ∀ other ∈ before, ∃ count, other.Reads lookup count)
    (malformed : setting.Malformed lookup value reason) :
    ofLookup lookup = .error (.malformed setting.name value reason) := by
  have refused := Setting.readSetting_of_malformed malformed
  -- One case for each place that the setting can have among the three.
  rcases before with _ | ⟨first, _ | ⟨second, _ | ⟨third, rest⟩⟩⟩
  · obtain ⟨rfl, -⟩ := List.cons.inj order
    simp only [Setting.threads] at refused ⊢
    rw [ofLookup, refused]
    rfl
  · obtain ⟨rfl, tail⟩ := List.cons.inj order
    obtain ⟨rfl, -⟩ := List.cons.inj tail
    obtain ⟨threads, threads_reads⟩ := earlier _ List.mem_cons_self
    have read := Setting.readSetting_of_reads threads_reads
    simp only [Setting.threads, Setting.localSize] at read refused ⊢
    rw [ofLookup, read, refused]
    rfl
  · obtain ⟨rfl, tail⟩ := List.cons.inj order
    obtain ⟨rfl, last⟩ := List.cons.inj tail
    obtain ⟨rfl, -⟩ := List.cons.inj last
    obtain ⟨⟨threads, threads_reads⟩, ⟨localSize, localSize_reads⟩, -⟩ := by
      simpa only [List.forall_mem_cons] using earlier
    have read := Setting.readSetting_of_reads threads_reads
    have reread := Setting.readSetting_of_reads localSize_reads
    simp only [Setting.threads, Setting.localSize, Setting.iterations] at read reread refused ⊢
    rw [ofLookup, read, reread, refused]
    rfl
  · have length := congrArg List.length order
    simp only [Setting.all, List.cons_append, List.length_cons, List.length_append,
      List.length_nil] at length
    omega

/-- Either all of some settings are read, or there is a first among them that is malformed. -/
theorem forall_reads_or_first_malformed (lookup : String → Option String)
    (settings : List Setting) :
    (∀ setting ∈ settings, ∃ count, setting.Reads lookup count) ∨
      ∃ before setting after value reason, settings = before ++ setting :: after ∧
        (∀ other ∈ before, ∃ count, other.Reads lookup count) ∧
        setting.Malformed lookup value reason := by
  induction settings with
  | nil => exact .inl (List.forall_mem_nil _)
  | cons first rest ih =>
      rcases first.reads_or_malformed lookup with reads | ⟨value, reason, malformed⟩
      · rcases ih with others | ⟨before, setting, after, value, reason, rfl, earlier, malformed⟩
        · exact .inl (List.forall_mem_cons.mpr ⟨reads, others⟩)
        · exact .inr ⟨first :: before, setting, after, value, reason, rfl,
            List.forall_mem_cons.mpr ⟨reads, earlier⟩, malformed⟩
      · exact .inr ⟨[], first, rest, value, reason, rfl, List.forall_mem_nil _, malformed⟩

/-- Refusals have no other reasons than these, and each of these is one. -/
theorem ofLookup_eq_error_iff_refuses {error : ConfigError} :
    ofLookup lookup = .error error ↔ Refuses lookup error := by
  constructor
  · intro refused
    rcases forall_reads_or_first_malformed lookup Setting.all with
      reads | ⟨before, setting, after, value, reason, order, earlier, malformed⟩
    · obtain ⟨⟨threads, threads_reads⟩, ⟨localSize, localSize_reads⟩, ⟨iterations,
        iterations_reads⟩, -⟩ := by
        simpa only [Setting.all, List.forall_mem_cons] using reads
      rw [ofLookup_of_reads threads_reads localSize_reads iterations_reads] at refused
      exact .rejected threads_reads localSize_reads iterations_reads
        (make_eq_error_iff.mp refused)
    · cases (ofLookup_of_malformed order earlier malformed).symm.trans refused
      exact .malformed order earlier malformed
  · intro refuses
    cases refuses with
    | malformed order earlier malformed => exact ofLookup_of_malformed order earlier malformed
    | rejected threads_reads localSize_reads iterations_reads rejects =>
        rw [ofLookup_of_reads threads_reads localSize_reads iterations_reads]
        exact make_eq_error_iff.mpr rejects

/-! ## Messages -/

/-- The message of an error starts with the name of a setting, as it would be set. -/
def Names (error : ConfigError) (setting : Setting) : Prop :=
  setting.name.toList ++ ['='] <+: error.message.toList

theorem malformed_names_iff {setting other : Setting} {value : String}
    {reason : Text.NumeralError} (listed : setting ∈ Setting.all)
    (otherListed : other ∈ Setting.all) :
    Names (.malformed other.name value reason) setting ↔ setting.name = other.name := by
  have plain : ∀ setting ∈ Setting.all, '=' ∉ setting.name.toList := by
    simp only [Setting.all, List.forall_mem_cons]
    refine ⟨?_, ?_, ?_, List.forall_mem_nil _⟩ <;> decide +kernel
  have message : (ConfigError.malformed other.name value reason).message.toList =
      other.name.toList ++ '=' ::
        ((Text.quoted value).toList ++ (": ".toList ++ reason.message.toList)) := by
    have equals : "=".toList = ['='] := by decide +kernel
    delta ConfigError.message
    simp only [String.toList_append, List.append_assoc, equals, List.cons_append,
      List.nil_append]
  rw [Names, message]
  constructor
  · intro starts
    exact String.toList_inj.mp
      (Text.eq_of_isPrefix_of_notMem (plain setting listed) (plain other otherListed) starts)
  · intro same
    rw [same]
    exact ⟨_, List.append_assoc _ _ _⟩

/-- What is wrong with the numbers together is not put down to one setting. -/
theorem not_names_of_rejects {setting : Setting} {threads localSize iterations : UInt32}
    {error : ConfigError} (listed : setting ∈ Setting.all)
    (rejects : Rejects threads localSize iterations error) : ¬Names error setting := by
  have capital : ∀ setting ∈ Setting.all, setting.name.toList.head? = some 'I' := by
    simp only [Setting.all, List.forall_mem_cons]
    refine ⟨?_, ?_, ?_, List.forall_mem_nil _⟩ <;> decide +kernel
  have small : error.message.toList.head? ≠ some 'I' := by
    have start : "thread_count (".toList.head? = some 't' := by decide +kernel
    have startSize : "local_group_size (".toList.head? = some 'l' := by decide +kernel
    delta ConfigError.message
    cases rejects <;>
      simp only [String.toList_append, List.head?_append, start, startSize, Option.some_or] <;>
      decide
  intro names
  obtain ⟨rest, eq⟩ := names
  rw [← eq, List.append_assoc, List.head?_append, capital setting listed] at small
  exact small rfl

theorem Refuses.names_iff {error : ConfigError} {setting : Setting} (refuses : Refuses lookup error)
    (listed : setting ∈ Setting.all) :
    Names error setting ↔ ∃ value reason, error = .malformed setting.name value reason := by
  cases refuses with
  | @malformed before after other value reason order earlier malformed =>
      have otherListed : other ∈ Setting.all := by
        rw [order]
        exact List.mem_append_right before List.mem_cons_self
      rw [malformed_names_iff listed otherListed]
      constructor
      · intro same
        exact ⟨_, _, by rw [same]⟩
      · rintro ⟨_, _, same⟩
        exact (ConfigError.malformed.inj same).1.symm
  | rejected threads_reads localSize_reads iterations_reads rejects =>
      constructor
      · intro names
        exact absurd names (not_names_of_rejects listed rejects)
      · rintro ⟨value, reason, rfl⟩
        cases rejects

/-- Settings are accepted exactly by the grammar of numerals, their bounds and the rules for the
numbers together, and refused with the first mistake: first in the settings by themselves, in their
order, and the message then starts with the name of that setting, and of no other. -/
theorem ofLookup_accepts_or_refuses (lookup : String → Option String) :
    (∀ config, ofLookup lookup = .ok config ↔ Accepts lookup config) ∧
      (∀ error, ofLookup lookup = .error error ↔ Refuses lookup error) ∧
      ∀ error, ofLookup lookup = .error error → ∀ setting ∈ Setting.all,
        (Names error setting ↔ ∃ value reason, error = .malformed setting.name value reason) := by
  refine ⟨fun _ => ofLookup_eq_ok_iff_accepts, fun _ => ofLookup_eq_error_iff_refuses, ?_⟩
  intro error refused setting listed
  exact (ofLookup_eq_error_iff_refuses.mp refused).names_iff listed

end Config

/-! ## Variables of a process -/

/-- An environment without a variable. -/
def Environment.without (environment : Environment) (name : String) : Environment :=
  ⟨environment.entries.filter (·.1 != name)⟩

theorem Environment.bytes?_without (environment : Environment) (name other : String) :
    (environment.without name).bytes? other =
      if other = name then none else environment.bytes? other := by
  obtain ⟨entries⟩ := environment
  simp only [without, bytes?]
  induction entries with
  | nil => simp
  | cons entry rest ih =>
      obtain ⟨first, bytes⟩ := entry
      by_cases removed : first = name
      · rw [List.filter_cons_of_neg (by simpa using removed), ih]
        by_cases same : other = name
        · rw [if_pos same, if_pos same]
        · have ne : (other == first) = false := by simpa [removed] using same
          rw [if_neg same, if_neg same, List.lookup_cons, ne]
      · rw [List.filter_cons_of_pos (by simpa using removed), List.lookup_cons, List.lookup_cons,
          ih]
        by_cases same : other = first
        · simp [same, removed]
        · have ne : (other == first) = false := by simpa using same
          rw [ne]

namespace Config

/-- A variable that is set to bytes that are no text counts as not set. -/
theorem ofEnvironment_without {environment : Environment} {name : String} {bytes : ByteArray}
    (set : environment.bytes? name = some bytes) (unreadable : String.fromUTF8? bytes = none) :
    ofEnvironment environment = ofEnvironment (environment.without name) := by
  have same : environment.text? = (environment.without name).text? := by
    funext other
    rw [Environment.text?, Environment.text?, Environment.bytes?_without]
    by_cases eq : other = name
    · rw [if_pos eq, eq, set]
      exact unreadable
    · rw [if_neg eq]
  rw [ofEnvironment, same]
  rfl

/-- A text that is a positive numeral of 32 bits with blanks around it. -/
def IsPositiveCount (text : String) : Prop :=
  ∃ count, IsCount text count ∧ 0 < count ∧ count < UInt32.size

/-- A variable that is set to a text decides its parameter, or the configuration is refused: never
does the default stand in for it. But bytes that are no text are as good as no variable, whatever
they are. -/
theorem ofEnvironment_of_set {environment : Environment} {setting : Setting} {bytes : ByteArray}
    (listed : setting ∈ Setting.all) (set : environment.bytes? setting.name = some bytes) :
    (∀ text, String.fromUTF8? bytes = some text →
      (¬IsPositiveCount text → ∃ error, ofEnvironment environment = .error error) ∧
        ∀ config, ofEnvironment environment = .ok config →
          IsCount text (setting.parameter config).toNat) ∧
      (String.fromUTF8? bytes = none →
        ofEnvironment environment = ofEnvironment (environment.without setting.name)) := by
  refine ⟨?_, ofEnvironment_without set⟩
  intro text read
  have looked : environment.text? setting.name = some text := by
    rw [Environment.text?, set]
    exact read
  constructor
  · intro invalid
    cases result : ofEnvironment environment with
    | error error => exact ⟨error, rfl⟩
    | ok config =>
        have accepts := ofLookup_eq_ok_iff_accepts.mp result
        exact absurd ⟨_, accepts.isCount listed looked, accepts.parameter_pos listed,
          UInt32.toNat_lt _⟩ invalid
  · intro config accepted
    exact (ofLookup_eq_ok_iff_accepts.mp accepted).isCount listed looked

/-- One variable is set to no text, which is as if it were not set, and another to no positive
number. -/
theorem ofEnvironment_of_set_zero :
    let environment : Environment :=
      ⟨[("INSTRATE_THREADS", ⟨#[0xFF]⟩), ("INSTRATE_LOCAL_SIZE", " 0".toUTF8)]⟩
    environment.bytes? Setting.threads.name = some ⟨#[0xFF]⟩ ∧
      ofEnvironment environment = ofEnvironment (environment.without Setting.threads.name) ∧
      environment.bytes? Setting.localSize.name = some " 0".toUTF8 ∧
      ∃ error, ofEnvironment environment = .error error := by
  intro environment
  have threads : Setting.threads ∈ Setting.all := List.mem_cons_self
  have localSize : Setting.localSize ∈ Setting.all := List.mem_cons_of_mem _ List.mem_cons_self
  have zero : ¬IsPositiveCount " 0" := by
    rintro ⟨count, isCount, positive, below⟩
    have read : Text.readUnsigned UInt32.size (Text.trim " 0") = .ok 0 := by decide +kernel
    cases read.symm.trans (readUnsigned_trim_eq_ok_iff.mpr ⟨isCount, below⟩)
    exact Nat.lt_irrefl 0 positive
  exact ⟨rfl, (ofEnvironment_of_set threads rfl).2 (by decide +kernel), rfl,
    ((ofEnvironment_of_set localSize rfl).1 " 0" (by decide +kernel)).1 zero⟩

/-- A variable that is set to no text at all is ignored. -/
theorem ofEnvironment_noText :
    let environment : Environment := ⟨[("INSTRATE_THREADS", ⟨#[0xFF]⟩)]⟩
    environment.bytes? "INSTRATE_THREADS" = some ⟨#[0xFF]⟩ ∧
      String.fromUTF8? ⟨#[0xFF]⟩ = none ∧ ofEnvironment environment = .ok .default := by
  intro environment
  exact ⟨rfl, by decide +kernel, by decide +kernel⟩

end Config

end AddRate
