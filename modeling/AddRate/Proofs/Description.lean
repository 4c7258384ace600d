import AddRate.Proofs.Construction

/-!
# Descriptions of configurations

The JSON texts that describe a configuration: an object in which each of its four members stands
exactly once, in any order and among any other members, or an array of its four numbers. Blanks may
stand between all tokens. No other text is read as that configuration.
-/

namespace AddRate

namespace Config

/-- A number is read as a count exactly if it is written like that count. -/
theorem number?_eq_some_iff {value : Json} (wellFormed : value.WellFormed) {count : UInt32} :
    number? value = some count ↔ value = .ofNat count.toNat := by
  constructor
  · intro read
    cases wellFormed with
    | @number literal isNumber =>
        unfold number? at read
        dsimp only at read
        cases digits : Text.readDigits UInt32.size 0 literal with
        | error error =>
            rw [digits] at read
            cases read
        | ok total =>
            rw [digits] at read
            cases read
            obtain ⟨isDigit, rfl, small⟩ := (Text.readDigits_eq_ok_iff (by decide)).mp digits
            have isInteger := Json.isInteger_of_isDigit (Json.isNumber_iff.mp isNumber) isDigit
            rw [Json.ofNat, UInt32.toNat_ofNat_of_lt' small, isInteger.toDigits_eq]
    | null => cases read
    | bool => cases read
    | string => cases read
    | array => cases read
    | object => cases read
  · rintro rfl
    exact number?_ofNat_toNat count

/-! ## Members -/

/-- The members of a configuration, in the order in which they are written. -/
def members (config : Config) : List (Option (List Char) × Json) :=
  List.zipWith (fun name number => Json.member name (.ofNat number.toNat))
    memberNames config.numbers

/-- The values that describe a configuration. -/
inductive DescribedBy (config : Config) : Json → Prop where
  /-- Its members once each in any order, with others whose names are texts but not known ones. -/
  | object {members others : List (Option (List Char) × Json)}
      (each : members.Perm (config.members ++ others))
      (unknown : ∀ other ∈ others, ∃ name : String, other.1 = some name.toList ∧
        name ∉ memberNames) :
      DescribedBy config (.object members)
  | array : DescribedBy config (.array (config.numbers.map fun number => .ofNat number.toNat))

section Keys

variable {α β : Type} [BEq α] [LawfulBEq α]

theorem filter_eq_nil_of_notMem {key : α} {pairs : List (α × β)}
    (absent : key ∉ pairs.map Prod.fst) : pairs.filter (·.1 == key) = [] := by
  rw [List.filter_eq_nil_iff]
  intro pair among same
  rw [beq_iff_eq] at same
  exact absent (same ▸ List.mem_map_of_mem among)

/-- A pair is the only one with its key among pairs of different keys. -/
theorem filter_eq_singleton {pairs : List (α × β)} (distinct : (pairs.map Prod.fst).Nodup)
    {pair : α × β} (among : pair ∈ pairs) : pairs.filter (·.1 == pair.1) = [pair] := by
  induction pairs with
  | nil => cases among
  | cons first rest ih =>
      obtain ⟨fresh, distinct⟩ := List.nodup_cons.mp distinct
      rcases List.mem_cons.mp among with rfl | among
      · simp [filter_eq_nil_of_notMem fresh]
      · have other : first.1 ≠ pair.1 := by
          intro same
          exact fresh (same ▸ List.mem_map_of_mem among)
        rw [List.filter_cons_of_neg (by simpa using other), ih distinct among]

/-- Pairs are the only ones with their keys exactly if all pairs besides them have other keys. -/
theorem forall_filter_eq_singleton_iff {own pairs : List (α × β)}
    (distinct : (own.map Prod.fst).Nodup) :
    (∀ pair ∈ own, pairs.filter (·.1 == pair.1) = [pair]) ↔
      ∃ others, pairs.Perm (own ++ others) ∧ ∀ other ∈ others, other.1 ∉ own.map Prod.fst := by
  constructor
  · intro only
    induction own generalizing pairs with
    | nil => exact ⟨pairs, .refl _, by simp⟩
    | cons first rest ih =>
        obtain ⟨fresh, distinct⟩ := List.nodup_cons.mp distinct
        -- The first pair apart, the rest of them stand among the pairs with other keys.
        have split := (List.filter_append_perm (·.1 == first.1) pairs).symm
        rw [only first List.mem_cons_self] at split
        have onlyRest : ∀ pair ∈ rest, (pairs.filter fun other => !(other.1 == first.1)).filter
            (·.1 == pair.1) = [pair] := by
          intro pair among
          have keep : ∀ other ∈ pairs, ((other.1 == pair.1) && !(other.1 == first.1)) =
              (other.1 == pair.1) := by
            intro other _
            have different : pair.1 ≠ first.1 := by
              intro same
              exact fresh (same ▸ List.mem_map_of_mem among)
            by_cases same : other.1 = pair.1 <;> simp [same, different]
          rw [List.filter_filter, List.filter_congr keep, only pair (List.mem_cons_of_mem _ among)]
        obtain ⟨others, each, unknown⟩ := ih distinct onlyRest
        refine ⟨others, split.trans (each.cons first), ?_⟩
        intro other among
        have member := each.mem_iff.mpr (List.mem_append_right _ among)
        have different := (List.mem_filter.mp member).2
        simp only [List.map_cons, List.mem_cons, not_or]
        exact ⟨by simpa using different, unknown other among⟩
  · rintro ⟨others, each, unknown⟩ pair among
    have absent : pair.1 ∉ others.map Prod.fst := by
      intro member
      obtain ⟨other, amongOthers, same⟩ := List.mem_map.mp member
      exact unknown other amongOthers (same ▸ List.mem_map_of_mem among)
    have filtered := each.filter (·.1 == pair.1)
    rw [List.filter_append, filter_eq_singleton distinct among, filter_eq_nil_of_notMem absent]
      at filtered
    exact List.perm_singleton.mp filtered

end Keys

theorem nodup_keys_members (config : Config) : (config.members.map Prod.fst).Nodup := by
  show (memberNames.map fun name => some name.toList).Nodup
  decide

theorem isSome_of_mem_members {config : Config} :
    ∀ member ∈ config.members, member.1.isSome = true := by
  simp [members, memberNames, numbers, Json.member]

/-- A name is known if a configuration has a member of that name. -/
theorem mem_keys_members_iff {config : Config} {name : String} :
    some name.toList ∈ config.members.map Prod.fst ↔ name ∈ memberNames := by
  show some name.toList ∈ memberNames.map (fun name => some name.toList) ↔ _
  simp [String.toList_inj]

/-- The only member of a name is read as a count exactly if it is that member of a configuration. -/
theorem onlyMember?_bind_number?_eq_some_iff {members : List (Option (List Char) × Json)}
    (wellFormed : (Json.object members).WellFormed) {name : String} {count : UInt32} :
    (onlyMember? members name).bind number? = some count ↔
      members.filter (·.1 == some name.toList) = [Json.member name (.ofNat count.toNat)] := by
  cases wellFormed with
  | object each =>
      constructor
      · intro read
        obtain ⟨value, only, number⟩ := Option.bind_eq_some_iff.mp read
        unfold onlyMember? at only
        split at only
        · next key found filtered =>
          cases only
          have member : (key, value) ∈ members.filter (·.1 == some name.toList) := by
            rw [filtered]
            exact List.mem_cons_self
          obtain ⟨among, own⟩ := List.mem_filter.mp member
          have own : key = some name.toList := by simpa using own
          have number : value = .ofNat count.toNat := (number?_eq_some_iff (each _ among)).mp number
          rw [filtered, own, number]
          rfl
        · cases only
      · intro filtered
        rw [onlyMember?, filtered]
        exact number?_ofNat_toNat count

theorem ofJson?_object_eq_some_iff {config : Config} {members : List (Option (List Char) × Json)}
    (wellFormed : (Json.object members).WellFormed) :
    ofJson? (.object members) = some config ↔
      (∀ member ∈ members, member.1.isSome = true) ∧
        ∀ own ∈ config.members, members.filter (·.1 == own.1) = [own] := by
  obtain ⟨threads, localSize, iterations, elements⟩ := config
  have each : ofJson? (.object members) = some ⟨threads, localSize, iterations, elements⟩ ↔
      (∀ member ∈ members, member.1.isSome = true) ∧
        (onlyMember? members "thread_count").bind number? = some threads ∧
        (onlyMember? members "local_group_size").bind number? = some localSize ∧
        (onlyMember? members "chase_iterations").bind number? = some iterations ∧
        (onlyMember? members "element_count").bind number? = some elements := by
    rw [← List.all_eq_true]
    cases all : members.all (·.1.isSome) with
    | true => simp [ofJson?, guard, all, Option.bind_eq_some_iff]
    | false => simp [ofJson?, guard, all]
  rw [each, onlyMember?_bind_number?_eq_some_iff wellFormed,
    onlyMember?_bind_number?_eq_some_iff wellFormed,
    onlyMember?_bind_number?_eq_some_iff wellFormed,
    onlyMember?_bind_number?_eq_some_iff wellFormed]
  simp [Config.members, memberNames, numbers, Json.member]

theorem ofJson?_array_eq_some_iff {config : Config} {items : List Json}
    (wellFormed : (Json.array items).WellFormed) :
    ofJson? (.array items) = some config ↔
      items = config.numbers.map fun number => .ofNat number.toNat := by
  cases wellFormed with
  | array each =>
      constructor
      · intro described
        unfold ofJson? at described
        split at described
        · next same =>
          cases same
          simp only [Option.bind_eq_bind, Option.bind_eq_some_iff] at described
          obtain ⟨threads, first, localSize, second, iterations, third, elements, fourth, made⟩ :=
            described
          cases made
          rw [(number?_eq_some_iff (each _ (by simp))).mp first,
            (number?_eq_some_iff (each _ (by simp))).mp second,
            (number?_eq_some_iff (each _ (by simp))).mp third,
            (number?_eq_some_iff (each _ (by simp))).mp fourth]
          rfl
        · next same => cases same
        · cases described
      · rintro rfl
        simp [ofJson?, numbers, number?_ofNat_toNat]

theorem ofJson?_eq_some_iff {config : Config} {value : Json} (wellFormed : value.WellFormed) :
    ofJson? value = some config ↔ config.DescribedBy value := by
  cases value with
  | object members =>
      rw [ofJson?_object_eq_some_iff wellFormed,
        forall_filter_eq_singleton_iff config.nodup_keys_members]
      constructor
      · rintro ⟨named, others, each, unknown⟩
        refine .object each ?_
        intro other among
        obtain ⟨name, same⟩ := Option.isSome_iff_exists.mp
          (named other (each.mem_iff.mpr (List.mem_append_right _ among)))
        refine ⟨String.ofList name, by simpa using same, ?_⟩
        rw [← mem_keys_members_iff, String.toList_ofList, ← same]
        exact unknown other among
      · intro described
        cases described with
        | @object _ others each unknown =>
            refine ⟨?_, others, each, ?_⟩
            · intro member among
              rcases List.mem_append.mp (each.mem_iff.mp among) with own | other
              · exact isSome_of_mem_members member own
              · obtain ⟨name, same, -⟩ := unknown member other
                rw [same]
                rfl
            · intro other among
              obtain ⟨name, same, notKnown⟩ := unknown other among
              rw [same, mem_keys_members_iff]
              exact notKnown
  | array items =>
      rw [ofJson?_array_eq_some_iff wellFormed]
      constructor
      · rintro rfl
        exact .array
      · intro described
        cases described
        rfl
  | _ =>
      constructor
      · intro described
        cases described
      · intro described
        cases described

/-! ## Texts -/

/-- What is read from a text is what its value describes. -/
theorem parseJson?_of_spelledBy {value : Json} {text : String}
    (spelled : value.SpelledBy text.toList) : parseJson? text = ofJson? value := by
  rw [parseJson?, Json.parse?, Json.ofChars?_eq_some_iff.mpr spelled]
  rfl

theorem parseJson?_eq_some_iff {config : Config} {text : String} :
    parseJson? text = some config ↔
      ∃ value, value.SpelledBy text.toList ∧ config.DescribedBy value := by
  constructor
  · intro parsed
    obtain ⟨value, read, described⟩ := Option.bind_eq_some_iff.mp parsed
    have spelled := Json.ofChars?_eq_some_iff.mp read
    exact ⟨value, spelled, (ofJson?_eq_some_iff spelled.wellFormed).mp described⟩
  · rintro ⟨value, spelled, described⟩
    rw [parseJson?_of_spelledBy spelled]
    exact (ofJson?_eq_some_iff spelled.wellFormed).mpr described

/-- A member that is missing or repeated keeps an object from describing anything. -/
theorem parseJson?_object_eq_none {members : List (Option (List Char) × Json)} {text : String}
    (spelled : (Json.object members).SpelledBy text.toList) {name : String}
    (known : name ∈ memberNames) (notOnce : members.countP (·.1 == some name.toList) ≠ 1) :
    parseJson? text = none := by
  rw [parseJson?_of_spelledBy spelled, Option.eq_none_iff_forall_ne_some]
  intro config described
  obtain ⟨-, only⟩ := (ofJson?_object_eq_some_iff spelled.wellFormed).mp described
  obtain ⟨own, among, same⟩ := List.mem_map.mp (mem_keys_members_iff.mpr known)
  have once := only own among
  rw [same] at once
  apply notOnce
  rw [List.countP_eq_length_filter, once]
  rfl

theorem parseJson?_array_eq_none {items : List Json} {text : String}
    (spelled : (Json.array items).SpelledBy text.toList) (length : items.length ≠ 4) :
    parseJson? text = none := by
  rw [parseJson?_of_spelledBy spelled, Option.eq_none_iff_forall_ne_some]
  intro config described
  have same := (ofJson?_array_eq_some_iff spelled.wellFormed).mp described
  apply length
  rw [same]
  rfl

/-- A configuration is read from the text that is written for it. It is read from a text exactly if
the text spells a value that describes it: the four members once each in any order, with any others
of other names among them, or the four numbers in their order. If a member is missing or repeated,
or the numbers are not four, nothing is read. -/
theorem parseJson?_eq_some_iff_describedBy (config : Config) (text : String) :
    parseJson? config.toJson.compact = some config ∧
      (parseJson? text = some config ↔
        ∃ value, value.SpelledBy text.toList ∧ config.DescribedBy value) ∧
      (∀ members, (Json.object members).SpelledBy text.toList → ∀ name ∈ memberNames,
        members.countP (·.1 == some name.toList) ≠ 1 → parseJson? text = none) ∧
      (∀ items, (Json.array items).SpelledBy text.toList → items.length ≠ 4 →
        parseJson? text = none) := by
  refine ⟨config.parseJson?_compact_toJson, parseJson?_eq_some_iff, ?_, ?_⟩
  · intro members spelled name known notOnce
    exact parseJson?_object_eq_none spelled known notOnce
  · intro items spelled length
    exact parseJson?_array_eq_none spelled length

/-- Members in another order, one with an escape in its name, an unknown one, and blanks. -/
example :
    parseJson? (" \x7b\"element_count\": 1024, \"unit\": [\x7b\x7d, null, \"\\ud800\"],\n" ++
      "\"local_group_size\":256 ,\t\"chase_iterations\":1,\"thread\\u005fcount\" : 4096\x7d ") =
      some ⟨4096, 256, 1, 1024⟩ := by
  decide +kernel

end Config

end AddRate
