import AddRate.Gpu.Opening
import AddRate.Gpu.Summary
import AddRate.Proofs.SubTest
import AddRate.Proofs.Text.Lowercase
import AddRate.Proofs.Text.Numeral

/-!
# Selection of adapters

A listing and the opening of a device read the same adapters separately. The device that is opened
is on the adapter that the listing shows at the chosen place, and it has exactly the capabilities
that are shown there. A number chooses by place, whatever the adapters are called, and without a
choice the first adapter of least rank is taken.
-/

namespace AddRate.Gpu

/-! ## The first adapter of least rank -/

/-- Ranks order the types of devices: of those that are present the one of least rank comes first. -/
theorem DeviceType.find?_eq_some_of_rank {present : DeviceType → Bool} {type : DeviceType}
    (taken : present type = true)
    (passed : ∀ better : DeviceType, better.rank < type.rank → present better = false) :
    [.discrete, .integrated, .virtual, .other, .cpu].find? present = some type := by
  have discrete := passed .discrete
  have integrated := passed .integrated
  have virtual := passed .virtual
  have unknown := passed .other
  cases type <;> simp_all [rank]

/-- The adapter at a place of a list is the first of those with the least rank. -/
structure FirstPreferred (adapters : List Adapter) (index : Nat) (adapter : Adapter) : Prop where
  getElem? : adapters[index]? = some adapter
  rank_le : ∀ other ∈ adapters, adapter.type.rank ≤ other.type.rank
  rank_lt : ∀ before < index, ∀ other, adapters[before]? = some other →
    adapter.type.rank < other.type.rank

namespace FirstPreferred

variable {first adapter : Adapter} {rest : List Adapter} {index : Nat}

/-- An adapter in front of the others takes precedence if its rank is no greater. -/
theorem head (preferred : FirstPreferred rest index adapter)
    (better : first.type.rank ≤ adapter.type.rank) : FirstPreferred (first :: rest) 0 first := by
  constructor
  · rfl
  · intro other member
    rcases List.mem_cons.mp member with rfl | member
    · exact Nat.le_refl _
    · exact Nat.le_trans better (preferred.rank_le other member)
  · intro before earlier
    cases earlier

theorem tail (preferred : FirstPreferred rest index adapter)
    (worse : adapter.type.rank < first.type.rank) :
    FirstPreferred (first :: rest) (index + 1) adapter := by
  constructor
  · exact preferred.getElem?
  · intro other member
    rcases List.mem_cons.mp member with rfl | member
    · exact Nat.le_of_lt worse
    · exact preferred.rank_le other member
  · intro before earlier other place
    cases before with
    | zero =>
        cases place
        exact worse
    | succ before => exact preferred.rank_lt before (Nat.lt_of_succ_lt_succ earlier) other place

/-- A discrete device is preferred to all others, then an integrated one, a virtual one and one of
another type, and a processor only to nothing: of these types the preferred one is the first that
some adapter has. -/
theorem find?_type (preferred : FirstPreferred rest index adapter) :
    [.discrete, .integrated, .virtual, .other, .cpu].find?
      (fun type : DeviceType => rest.any (·.type = type)) = some adapter.type := by
  apply DeviceType.find?_eq_some_of_rank
  · have member := List.mem_of_getElem? preferred.getElem?
    simp only [List.any_eq_true, decide_eq_true_eq]
    exact ⟨adapter, member, rfl⟩
  · intro type before
    simp only [List.any_eq_false, decide_eq_true_eq]
    rintro other member rfl
    exact Nat.not_lt_of_le (preferred.rank_le other member) before

/-- No adapter in front of the preferred one has its type. -/
theorem type_ne (preferred : FirstPreferred rest index adapter) {before : Nat}
    (earlier : before < index) {other : Adapter} (place : rest[before]? = some other) :
    other.type ≠ adapter.type := by
  intro same
  have less := preferred.rank_lt before earlier other place
  rw [same] at less
  exact Nat.lt_irrefl _ less

end FirstPreferred

theorem preferred?_eq_none_iff (adapters : List Adapter) :
    preferred? adapters = none ↔ adapters = [] := by
  cases adapters with
  | nil => simp [preferred?]
  | cons first rest =>
      simp only [preferred?, reduceCtorEq, iff_false]
      cases preferred? rest with
      | none => simp
      | some other => by_cases better : first.type.rank ≤ other.type.rank <;> simp [better]

/-- Automatic selection takes the first adapter of least rank. -/
theorem exists_firstPreferred {adapters : List Adapter} {adapter : Adapter}
    (preferred : preferred? adapters = some adapter) :
    ∃ index, FirstPreferred adapters index adapter := by
  induction adapters generalizing adapter with
  | nil => cases preferred
  | cons first rest ih =>
      cases others : preferred? rest with
      | none =>
          simp only [preferred?, others, Option.some.injEq] at preferred
          subst preferred
          rw [preferred?_eq_none_iff] at others
          subst others
          exact ⟨0, rfl, by simp, by simp⟩
      | some other =>
          obtain ⟨index, least⟩ := ih others
          simp only [preferred?, others] at preferred
          by_cases better : first.type.rank ≤ other.type.rank
          · rw [if_pos better] at preferred
            cases preferred
            exact ⟨0, least.head better⟩
          · rw [if_neg better] at preferred
            cases preferred
            exact ⟨index + 1, least.tail (Nat.lt_of_not_le better)⟩

/-! ## The chosen adapter -/

theorem eq_some_of_elim_eq_ok {α ε : Type} {option : Option α} {value : α} {error : ε}
    (found : option.elim (.error error) Except.ok = .ok value) : option = some value := by
  cases option with
  | none => cases found
  | some other =>
      cases found
      rfl

section Choice

variable {selector : String} {adapters : List Adapter} {adapter : Adapter}

/-- Whatever the selector, the chosen adapter is one of the list. -/
theorem mem_of_selectAdapter (selected : selectAdapter selector adapters = .ok adapter) :
    adapter ∈ adapters := by
  unfold selectAdapter at selected
  split at selected
  · cases selected
  · split at selected
    · obtain ⟨index, least⟩ := exists_firstPreferred (eq_some_of_elim_eq_ok selected)
      exact List.mem_of_getElem? least.getElem?
    · split at selected
      · split at selected
        · rename_i other place
          cases selected
          exact List.mem_of_getElem? place
        · exact List.mem_of_find?_eq_some (eq_some_of_elim_eq_ok selected)
      · exact List.mem_of_find?_eq_some (eq_some_of_elim_eq_ok selected)

/-- A number below the number of adapters chooses by place. -/
theorem selectAdapter_of_readUnsigned {index : Nat}
    (read : Text.readUnsigned UInt64.size selector = .ok index)
    (place : adapters[index]? = some adapter) : selectAdapter selector adapters = .ok adapter := by
  have nonempty : ¬adapters.isEmpty := by
    rintro empty
    rw [List.isEmpty_iff.mp empty] at place
    cases place
  have numeral : ¬(selector = "" ∨ selector = "auto") := by
    rintro (rfl | rfl)
    · cases read
    · cases read
  simp only [selectAdapter, nonempty, numeral, read, place, if_false, Bool.false_eq_true]

theorem preferred?_of_selectAdapter (auto : selector = "" ∨ selector = "auto")
    (selected : selectAdapter selector adapters = .ok adapter) :
    preferred? adapters = some adapter := by
  unfold selectAdapter at selected
  rw [if_pos auto] at selected
  split at selected
  · cases selected
  · exact eq_some_of_elim_eq_ok selected

end Choice

/-! ## Selectors -/

/-- The environment leaves the choice of an adapter to the program: the selector is not set, or
is blank, or is the word `auto` in any letter case. -/
def LeavesChoice (environment : Environment) : Prop :=
  environment.text? "INSTRATE_GPU_ADAPTER" = none ∨
    ∃ value, environment.text? "INSTRATE_GPU_ADAPTER" = some value ∧
      (Text.trim value = "" ∨ Text.lowercase (Text.trim value) = "auto")

/-- The environment chooses an adapter by its place. -/
def ChoosesPlace (environment : Environment) (index : Nat) : Prop :=
  ∃ value, environment.text? "INSTRATE_GPU_ADAPTER" = some value ∧
    Text.readUnsigned UInt64.size (Text.trim value) = .ok index

theorem LeavesChoice.selectorOf {environment : Environment} (leaves : LeavesChoice environment) :
    selectorOf environment = "" ∨ selectorOf environment = "auto" := by
  have empty : Text.lowercase "" = "" := by decide
  unfold Gpu.selectorOf
  rcases leaves with unset | ⟨value, set, blank | auto⟩
  · rw [unset]
    exact .inl (by decide)
  · rw [set, Option.getD_some, blank]
    exact .inl empty
  · rw [set, Option.getD_some]
    exact .inr auto

/-- Putting a number into lower case does not change it. -/
theorem ChoosesPlace.readUnsigned_selectorOf {environment : Environment} {index : Nat}
    (chooses : ChoosesPlace environment index) :
    Text.readUnsigned UInt64.size (selectorOf environment) = .ok index := by
  obtain ⟨value, set, read⟩ := chooses
  have numeral := ((Text.readUnsigned_eq_ok_iff (by decide)).mp read).1
  rw [selectorOf, set, Option.getD_some, Text.lowercase_of_lt numeral.toNat_lt]
  exact read

/-! ## Listed and enabled capabilities -/

/-- Of the features on offer a device gets those that a capability needs, and no others. -/
theorem mem_optionalFeatures_iff (offered : List String) (feature : String) :
    feature ∈ optionalFeatures offered ↔
      ∃ capability : Capability, capability.feature = feature ∧ feature ∈ offered := by
  have every (capability : Capability) : capability ∈ Capability.all := by
    cases capability <;> decide
  simp only [optionalFeatures, List.mem_filter, List.mem_map, List.contains_iff_mem]
  constructor
  · rintro ⟨⟨capability, -, rfl⟩, offers⟩
    exact ⟨capability, rfl, offers⟩
  · rintro ⟨capability, rfl, offers⟩
    exact ⟨⟨capability, every capability, rfl⟩, offers⟩

section Creation

variable {adapter : Adapter} {gpu : Gpu}

/-- A device takes its description from its adapter and nothing but capabilities from its
features. -/
theorem of_create_eq_ok (created : create adapter = .ok gpu) :
    gpu.name = adapter.name ∧ gpu.driver = adapter.driver ∧ gpu.backend = adapter.backend ∧
      gpu.type = adapter.type ∧ gpu.features = optionalFeatures adapter.features := by
  unfold create at created
  split at created
  · cases created
    exact ⟨rfl, rfl, rfl, rfl, rfl⟩
  · cases created

/-- A device supports what its adapter offers. -/
theorem supports_of_create (created : create adapter = .ok gpu) (capability : Capability) :
    gpu.supports capability = adapter.offers capability := by
  obtain ⟨-, -, -, -, features⟩ := of_create_eq_ok created
  rw [Bool.eq_iff_iff, supports, Adapter.offers, features, List.contains_iff_mem,
    List.contains_iff_mem, mem_optionalFeatures_iff]
  constructor
  · rintro ⟨-, -, offers⟩
    exact offers
  · intro offers
    exact ⟨capability, rfl, offers⟩

end Creation

/-- A line of a listing ends with what the adapter offers. -/
theorem AdapterInfo.exists_text_eq (info : AdapterInfo) :
    ∃ description,
      info.text = "[" ++ toString info.index ++ "] " ++ info.name ++ " (" ++ description ++ ", "
        ++ (if info.hasFp64 then "f64" else "no-f64") ++ ", "
        ++ (if info.hasInt64 then "i64" else "no-i64") ++ ")" := by
  refine ⟨info.driver ++ ", " ++ info.backend.label ++ ", " ++ info.type.label, ?_⟩
  simp [text, String.append_assoc]

theorem getElem?_listAdapters {adapters : List Adapter} {index : Nat} {adapter : Adapter}
    (place : adapters[index]? = some adapter) :
    (listAdapters adapters)[index]? = some (.ofAdapter index adapter) := by
  rw [listAdapters, List.getElem?_mapIdx, place]
  rfl

/-- An adapter stands in the listing behind the title, at its place. -/
theorem getElem?_listingLines {environment : Environment} {machine : List Adapter} {index : Nat}
    {adapter : Adapter} (place : (visibleAdapters environment machine)[index]? = some adapter) :
    (listingLines environment machine)[index + 1]? =
      some ("    " ++ (AdapterInfo.ofAdapter index adapter).text) := by
  have listed := getElem?_listAdapters place
  have nonempty : ¬(listAdapters (visibleAdapters environment machine)).isEmpty := by
    intro empty
    rw [List.isEmpty_iff.mp empty] at listed
    cases listed
  rw [listingLines, List.getElem?_cons_succ, if_neg nonempty, List.getElem?_map, listed]
  rfl

/-! ## Opened devices -/

section Opening

variable {environment : Environment} {machine : List Adapter} {gpu : Gpu}

/-- A number that is a place of the listing opens the adapter there. -/
theorem ofEnvironment_of_choosesPlace {index : Nat} {adapter : Adapter}
    (chooses : ChoosesPlace environment index)
    (place : (visibleAdapters environment machine)[index]? = some adapter) :
    ofEnvironment environment machine = create adapter := by
  have selected := selectAdapter_of_readUnsigned chooses.readUnsigned_selectorOf place
  simp only [ofEnvironment, chosenAdapter, selected]
  rfl

/-- A device is made on an adapter that was selected. -/
theorem exists_selected_of_ofEnvironment (opened : ofEnvironment environment machine = .ok gpu) :
    ∃ adapter,
      selectAdapter (selectorOf environment) (visibleAdapters environment machine) = .ok adapter ∧
        create adapter = .ok gpu := by
  unfold ofEnvironment chosenAdapter at opened
  cases selected : selectAdapter (selectorOf environment) (visibleAdapters environment machine) with
  | error error =>
      rw [selected] at opened
      cases opened
  | ok adapter =>
      rw [selected] at opened
      exact ⟨adapter, rfl, opened⟩

/-- The place of the adapter on which a device is made: the chosen one, or else that of the first
adapter of least rank. -/
theorem exists_place_of_ofEnvironment (opened : ofEnvironment environment machine = .ok gpu) :
    ∃ index adapter, (visibleAdapters environment machine)[index]? = some adapter ∧
      create adapter = .ok gpu ∧
      (∀ chosen, ChoosesPlace environment chosen →
        chosen < (visibleAdapters environment machine).length → index = chosen) ∧
      (LeavesChoice environment →
        FirstPreferred (visibleAdapters environment machine) index adapter) := by
  obtain ⟨adapter, selected, created⟩ := exists_selected_of_ofEnvironment opened
  by_cases leaves : LeavesChoice environment
  · have preferred := preferred?_of_selectAdapter leaves.selectorOf selected
    obtain ⟨index, first⟩ := exists_firstPreferred preferred
    refine ⟨index, adapter, first.getElem?, created, ?_, fun _ => first⟩
    -- A number is neither empty nor the word for automatic selection.
    intro chosen chooses
    have read := chooses.readUnsigned_selectorOf
    rcases leaves.selectorOf with empty | auto
    · rw [empty] at read
      cases read
    · rw [auto] at read
      cases read
  · by_cases places : ∃ chosen, ChoosesPlace environment chosen ∧
        chosen < (visibleAdapters environment machine).length
    · obtain ⟨chosen, chooses, within⟩ := places
      have place := List.getElem?_eq_getElem within
      have selectedThere := selectAdapter_of_readUnsigned chooses.readUnsigned_selectorOf place
      cases selected.symm.trans selectedThere
      refine ⟨chosen, _, place, created, ?_, fun left => absurd left leaves⟩
      intro other otherChooses within
      have same := chooses.readUnsigned_selectorOf.symm.trans otherChooses.readUnsigned_selectorOf
      cases same
      rfl
    · obtain ⟨index, place⟩ := List.getElem?_of_mem (mem_of_selectAdapter selected)
      refine ⟨index, adapter, place, created, ?_, fun left => absurd left leaves⟩
      intro chosen chooses within
      exact absurd ⟨chosen, chooses, within⟩ places

/-- The device that a program opens is on the adapter of an entry of the listing, and has the
capabilities that the entry shows. If the choice is left to the program, no adapter has a type that
is preferred to that of the entry, and none in front of it has the same type. -/
theorem exists_listed_of_ofEnvironment (opened : ofEnvironment environment machine = .ok gpu) :
    let adapters := visibleAdapters environment machine
    ∃ index adapter info, adapters[index]? = some adapter ∧ create adapter = .ok gpu ∧
      (listAdapters adapters)[index]? = some info ∧ info.index = index ∧
      (info.name = gpu.name ∧ info.driver = gpu.driver ∧ info.backend = gpu.backend ∧
        info.type = gpu.type) ∧
      (∀ chosen, ChoosesPlace environment chosen → chosen < adapters.length → index = chosen) ∧
      (LeavesChoice environment → FirstPreferred adapters index adapter ∧
        [.discrete, .integrated, .virtual, .other, .cpu].find?
          (fun type : DeviceType => adapters.any (·.type = type)) = some adapter.type ∧
        ∀ before < index, ∀ other, adapters[before]? = some other → other.type ≠ adapter.type) ∧
      (gpu.supports .fp64 = info.hasFp64 ∧ gpu.supports .int64 = info.hasInt64) ∧
      (∀ feature, feature ∈ gpu.features ↔
        ∃ capability : Capability, capability.feature = feature ∧ feature ∈ adapter.features) ∧
      (listingLines environment machine)[index + 1]? = some ("    " ++ info.text) ∧
      (∃ description, info.text = "[" ++ toString index ++ "] " ++ gpu.name ++ " ("
        ++ description ++ ", " ++ (if gpu.supports .fp64 then "f64" else "no-f64") ++ ", "
        ++ (if gpu.supports .int64 then "i64" else "no-i64") ++ ")") ∧
      (∀ config grid buffers state,
        (runSubTest (device gpu.supports) config .fp64Add grid buffers state).outcome =
            .ok (.unsupported Kernel.fp64Add.label) ↔
          info.hasFp64 = false) ∧
      Kernel.int64Add.body gpu.supports =
        if info.hasInt64 then Shader.int64Native.source else Shader.int64Portable.source := by
  intro adapters
  obtain ⟨index, adapter, place, created, chosen, first⟩ := exists_place_of_ofEnvironment opened
  obtain ⟨name, driver, backend, type, features⟩ := of_create_eq_ok created
  have fp64 := supports_of_create created .fp64
  have int64 := supports_of_create created .int64
  refine ⟨index, adapter, .ofAdapter index adapter, place, created, getElem?_listAdapters place,
    rfl, ⟨name.symm, driver.symm, backend.symm, type.symm⟩, chosen, ?_, ⟨fp64, int64⟩,
    ?_, ?_, ?_, ?_, ?_⟩
  · intro leaves
    have preferred := first leaves
    exact ⟨preferred, preferred.find?_type, fun _ earlier _ => preferred.type_ne earlier⟩
  · intro feature
    rw [features]
    exact mem_optionalFeatures_iff ..
  · exact getElem?_listingLines place
  · rw [name, fp64, int64]
    exact (AdapterInfo.ofAdapter index adapter).exists_text_eq
  · intro config grid buffers state
    rw [outcome_runSubTest_eq_unsupported_iff]
    show (!gpu.supports .fp64) = true ↔ adapter.offers .fp64 = false
    rw [fp64, Bool.not_eq_true']
  · show (if gpu.supports .int64 then _ else _) = _
    rw [int64]
    rfl

end Opening

/-- Two adapters, the first of which has the number of the second in its name. -/
theorem exists_listed_of_ofEnvironment_digitInName :
    let limits : Limits := ⟨1024, 1024, 65535, 1073741824, 2147483647⟩
    let first : Adapter :=
      { name := "GTX 1", driver := "radv", type := .discrete, features := [], limits }
    let second : Adapter :=
      { name := "B", driver := "radv", type := .cpu,
        features := ["TIMESTAMP_QUERY", "SHADER_F64"], limits }
    let machine := [first, second]
    let environment : Environment := ⟨[("INSTRATE_GPU_ADAPTER", " +1 ".toUTF8)]⟩
    ∃ gpu, ofEnvironment environment machine = .ok gpu ∧ ChoosesPlace environment 1 ∧
      ∃ info : AdapterInfo, (listAdapters (visibleAdapters environment machine))[1]? = some info ∧
        info.name = gpu.name ∧ gpu.supports .fp64 = info.hasFp64 := by
  intro limits first second machine environment
  have chooses : ChoosesPlace environment 1 := ⟨" +1 ", by decide, by decide⟩
  have opened : ofEnvironment environment machine = create second :=
    ofEnvironment_of_choosesPlace chooses rfl
  refine ⟨_, opened, chooses, ?_⟩
  obtain ⟨index, adapter, info, -, -, listed, -, ⟨name, -⟩, chosen, -, ⟨fp64, -⟩, -⟩ :=
    exists_listed_of_ofEnvironment opened
  cases chosen 1 chooses (by decide)
  exact ⟨info, listed, name, fp64⟩

end AddRate.Gpu
