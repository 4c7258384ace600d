import AddRate.Proofs.Selection
import AddRate.Proofs.Text.Blank
import AddRate.Proofs.Text.Lowercase
import AddRate.Proofs.Text.Numeral

/-!
# Adapters asked for by name

A selector is put into lower case by the full map, but the names in which it is looked for by the
map of the letters `A` to `Z` only. So an adapter is found under its own name, in capital or small
letters, exactly if the two maps agree on that name: a name with a capital beyond `Z` does not find
its adapter.
-/

namespace AddRate.Gpu

/-! ## Names as selectors -/

/-- A text that asks for an adapter by name: it is not empty, nor the word `auto` in any letter
case, nor a number. -/
structure IsName (text : String) : Prop where
  ne_empty : text ≠ ""
  ne_auto : Text.lowercase text ≠ "auto"
  not_number : ∀ index, Text.readUnsigned UInt64.size text ≠ .ok index

theorem forall_toNat_lt_of_all {chars : List Char} (all : chars.all (·.toNat < 0x80) = true) :
    ∀ c ∈ chars, c.toNat < 0x80 := by
  simpa using all

namespace IsName

variable {text value : String}

theorem lowercase_ne_empty (isName : IsName text) : Text.lowercase text ≠ "" := by
  intro empty
  have longer := Text.length_le_lowercaseAfter [] text.toList
  rw [← Text.toList_lowercase, empty, String.toList_empty, List.length_nil, Nat.le_zero,
    List.length_eq_zero_iff] at longer
  exact isName.ne_empty (String.toList_inj.mp longer)

/-- A number in lower case was a number before. -/
theorem not_number_lowercase (isName : IsName text) (index : Nat) :
    Text.readUnsigned UInt64.size (Text.lowercase text) ≠ .ok index := by
  intro read
  have positive : 0 < UInt64.size := by decide
  have numeral := ((Text.readUnsigned_eq_ok_iff positive).mp read).1
  have small := numeral.toNat_lt
  rw [Text.toList_lowercase] at small
  rw [Text.lowercase, Text.eq_of_lowercaseAfter_lt small, String.ofList_toList] at read
  exact isName.not_number index read

/-- Changing the case of its letters makes no other kind of selector of a name. -/
theorem of_sameLetters (isName : IsName text) (same : Text.SameLetters value text) :
    IsName value := by
  constructor
  · rintro rfl
    have length := same.length_eq
    exact isName.ne_empty (String.toList_inj.mp (List.length_eq_zero_iff.mp length.symm))
  · intro auto
    have ascii : ∀ d ∈ (Text.lowercase value).toList, d.toNat < 0x80 := by
      rw [auto]
      exact forall_toNat_lt_of_all (by decide)
    exact isName.ne_auto ((same.lowercase_eq ascii).trans auto)
  · intro index read
    have positive : 0 < UInt64.size := by decide
    have small := ((Text.readUnsigned_eq_ok_iff positive).mp read).1.toNat_lt
    have unchanged : Text.lowercase value = value := Text.lowercase_of_lt small
    have ascii : ∀ d ∈ (Text.lowercase value).toList, d.toNat < 0x80 := by
      intro d member
      rw [unchanged] at member
      exact Nat.lt_trans (small d member) (by decide)
    have lower := same.lowercase_eq ascii
    rw [unchanged] at lower
    apply isName.not_number_lowercase index
    rw [lower]
    exact read

end IsName

/-! ## The search for a name -/

/-- The adapter at a place is the first in whose name, put into lower case by a map, a text
occurs. -/
structure FirstNamed (lower : String → String) (selector : String) (adapters : List Adapter)
    (index : Nat) (adapter : Adapter) : Prop where
  getElem? : adapters[index]? = some adapter
  contains : Text.contains selector (lower adapter.name) = true
  not_contains : ∀ before < index, ∀ other, adapters[before]? = some other →
    Text.contains selector (lower other.name) = false

/-- Maps that agree on the names find the same adapter. -/
theorem FirstNamed.congr {lower lower' : String → String} {selector : String}
    {adapters : List Adapter} {index : Nat} {adapter : Adapter}
    (first : FirstNamed lower selector adapters index adapter)
    (agree : ∀ other ∈ adapters, lower' other.name = lower other.name) :
    FirstNamed lower' selector adapters index adapter := by
  refine ⟨first.getElem?, ?_, ?_⟩
  · rw [agree adapter (List.mem_of_getElem? first.getElem?)]
    exact first.contains
  · intro earlier lt other there
    rw [agree other (List.mem_of_getElem? there)]
    exact first.not_contains earlier lt other there

section Search

variable {selector : String} {adapters : List Adapter} {place : Nat} {adapter : Adapter}

/-- Where a text occurs in the name of one adapter, the search ends there or earlier. -/
theorem exists_named?_eq_some (listed : adapters[place]? = some adapter)
    (contains : Text.contains selector (Text.asciiLowercase adapter.name) = true) :
    ∃ index ≤ place, ∃ first, FirstNamed Text.asciiLowercase selector adapters index first ∧
      named? selector adapters = some first := by
  cases found : named? selector adapters with
  | none =>
      have absent := List.find?_eq_none.mp found adapter (List.mem_of_getElem? listed)
      exact absurd contains absent
  | some first =>
      obtain ⟨containsFirst, index, within, rfl, earlier⟩ :=
        List.find?_eq_some_iff_getElem.mp found
      have not_contains : ∀ before < index, ∀ other, adapters[before]? = some other →
          Text.contains selector (Text.asciiLowercase other.name) = false := by
        intro before lt other there
        obtain ⟨_, rfl⟩ := List.getElem?_eq_some_iff.mp there
        simpa using earlier before lt
      refine ⟨index, ?_, _, ⟨List.getElem?_eq_getElem within, containsFirst, not_contains⟩, rfl⟩
      apply Nat.le_of_not_lt
      intro later
      rw [not_contains place later adapter listed] at contains
      cases contains

/-- A selector that is neither empty nor `auto` nor a number is looked for in the names. -/
theorem selectAdapter_of_isName (nonempty : adapters ≠ []) (ne_empty : selector ≠ "")
    (ne_auto : selector ≠ "auto")
    (not_number : ∀ index, Text.readUnsigned UInt64.size selector ≠ .ok index) :
    selectAdapter selector adapters =
      (named? selector adapters).elim (.error (noMatch selector "")) .ok := by
  have filled : ¬adapters.isEmpty := by simpa using nonempty
  have named : ¬(selector = "" ∨ selector = "auto") := not_or.mpr ⟨ne_empty, ne_auto⟩
  rw [selectAdapter, if_neg filled, if_neg named]
  cases read : Text.readUnsigned UInt64.size selector with
  | ok index => exact absurd read (not_number index)
  | error reason => rfl

end Search

/-! ## An adapter under its own name -/

/-- A text that is as long as a name, without the blanks around both, occurs in the name exactly if
the full map makes of the text what the small map makes of the name. -/
theorem contains_lowercase_iff {value name : String} (nonempty : Text.trim value ≠ "")
    (long : (Text.trim name).toList.length ≤ (Text.trim value).toList.length) :
    Text.contains (Text.lowercase (Text.trim value)) (Text.asciiLowercase name) = true ↔
      Text.lowercase (Text.trim value) = Text.asciiLowercase (Text.trim name) := by
  obtain ⟨⟨before, behind, split, blankBefore, blankBehind⟩, -, -⟩ := Text.isTrim_trim name
  have lowered : (Text.asciiLowercase name).toList = before.map Char.toLower ++
      (Text.asciiLowercase (Text.trim name)).toList ++ behind.map Char.toLower := by
    rw [Text.toList_asciiLowercase, Text.toList_asciiLowercase, split, List.map_append,
      List.map_append]
  rw [Text.contains_iff_isInfix, lowered, ← String.toList_inj]
  constructor
  · intro occurs
    have blankLowered : ∀ blanks : List Char, (∀ c ∈ blanks, Text.isBlank c = true) →
        ∀ c ∈ blanks.map Char.toLower, Text.isBlank c = true := by
      intro blanks blank c member
      obtain ⟨d, among, rfl⟩ := List.mem_map.mp member
      rw [Text.isBlank_toLower]
      exact blank d among
    have ends := Text.isTrim_trim value
    have longer := Text.length_le_lowercaseAfter [] (Text.trim value).toList
    rw [Text.toList_lowercase] at occurs ⊢
    have inside := Text.isInfix_of_isInfix_between (blankLowered before blankBefore)
      (blankLowered behind blankBehind) ?_ (Text.head_lowercaseAfter [] ends.head)
      (Text.last_lowercaseAfter [] ends.last) occurs
    · apply inside.eq_of_length_le
      rw [Text.toList_asciiLowercase, List.length_map]
      exact Nat.le_trans long longer
    · rintro empty
      rw [empty, List.length_nil, Nat.le_zero, List.length_eq_zero_iff] at longer
      exact nonempty (String.toList_inj.mp longer)
  · intro same
    rw [same]
    exact List.infix_append _ _ _

section OwnName

variable {environment : Environment} {machine : List Adapter} {place : Nat} {adapter : Adapter}
variable {value : String}

theorem selectorOf_eq (set : environment.text? "INSTRATE_GPU_ADAPTER" = some value) :
    selectorOf environment = Text.lowercase (Text.trim value) := by
  rw [selectorOf, set, Option.getD_some]

/-- A value that asks by name chooses the adapter that is found by it. -/
theorem chosenAdapter_of_isName (nonempty : visibleAdapters environment machine ≠ [])
    (set : environment.text? "INSTRATE_GPU_ADAPTER" = some value)
    (isName : IsName (Text.trim value)) :
    let selector := Text.lowercase (Text.trim value)
    chosenAdapter environment machine =
      (named? selector (visibleAdapters environment machine)).elim
        (.error (noMatch selector "")) .ok := by
  intro selector
  rw [chosenAdapter, selectorOf_eq set]
  exact selectAdapter_of_isName nonempty isName.lowercase_ne_empty isName.ne_auto
    isName.not_number_lowercase

/-- An adapter is asked for by its own name, with blanks and letter case as they may be. If the two
maps agree on the name, the search ends at the first adapter in whose name the text occurs, which is
that adapter or an earlier one; if they differ, the adapter does not match even where it is the only
one. On the name itself, or with other letter case from `A` to `Z`, they agree exactly if no
character beyond ASCII has a lower case other than itself. -/
theorem chosenAdapter_ownName
    (listed : (visibleAdapters environment machine)[place]? = some adapter)
    (isName : IsName (Text.trim adapter.name))
    (set : environment.text? "INSTRATE_GPU_ADAPTER" = some value)
    (same : Text.SameLetters (Text.trim value) (Text.trim adapter.name)) :
    let adapters := visibleAdapters environment machine
    let selector := Text.lowercase (Text.trim value)
    (selector = Text.asciiLowercase (Text.trim adapter.name) →
      ∃ index ≤ place, ∃ first, FirstNamed Text.asciiLowercase selector adapters index first ∧
        chosenAdapter environment machine = .ok first ∧
        ((∀ other ∈ adapters, Text.lowercase other.name = Text.asciiLowercase other.name) →
          FirstNamed Text.lowercase selector adapters index first)) ∧
      (selector ≠ Text.asciiLowercase (Text.trim adapter.name) →
        chosenAdapter environment [adapter] = .error (noMatch selector "")) ∧
      (Text.asciiLowercase (Text.trim value) = Text.asciiLowercase (Text.trim adapter.name) →
        (selector = Text.asciiLowercase (Text.trim adapter.name) ↔
          ∀ c ∈ (Text.trim adapter.name).toList, c.toNat < 0x80 ∨ Text.lowerChar c = [c])) := by
  intro adapters selector
  have isValue := isName.of_sameLetters same
  have own : Text.contains selector (Text.asciiLowercase adapter.name) = true ↔
      selector = Text.asciiLowercase (Text.trim adapter.name) :=
    contains_lowercase_iff isValue.ne_empty (Nat.le_of_eq same.length_eq.symm)
  have member := List.mem_of_getElem? listed
  refine ⟨?_, ?_, ?_⟩
  · intro agrees
    obtain ⟨index, before, first, firstNamed, found⟩ :=
      exists_named?_eq_some listed (own.mpr agrees)
    refine ⟨index, before, first, firstNamed, ?_, firstNamed.congr⟩
    rw [chosenAdapter_of_isName (List.ne_nil_of_mem member) set isValue, found]
    rfl
  · intro differs
    have alone : visibleAdapters environment [adapter] = [adapter] :=
      List.filter_cons_of_pos (List.mem_filter.mp member).2
    have absent : named? selector [adapter] = none := by
      apply List.find?_eq_none.mpr
      intro other only
      rw [List.mem_singleton.mp only]
      exact mt own.mp differs
    rw [chosenAdapter_of_isName (by rw [alone]; exact List.cons_ne_nil _ _) set isValue, alone,
      absent]
    rfl
  · intro letters
    have lower : selector = Text.lowercase (Text.trim adapter.name) := by
      show Text.lowercase (Text.trim value) = _
      rw [← Text.lowercase_asciiLowercase, letters, Text.lowercase_asciiLowercase]
    rw [lower]
    exact Text.lowercase_eq_asciiLowercase_iff _

/-- The second of two adapters is asked for in other letter case, and the first has the text in its
name too. -/
theorem chosenAdapter_ownName_earlierAdapter :
    let limits : Limits := ⟨1024, 1024, 65535, 1073741824, 2147483647⟩
    let first : Adapter :=
      { name := "GeForce RTX 4070", driver := "", type := .discrete, features := [], limits }
    let second : Adapter := { first with name := "RTX 4070" }
    let machine := [first, second]
    let environment : Environment := ⟨[("INSTRATE_GPU_ADAPTER", " rtx 4070".toUTF8)]⟩
    (visibleAdapters environment machine)[1]? = some second ∧
      IsName (Text.trim second.name) ∧
      environment.text? "INSTRATE_GPU_ADAPTER" = some " rtx 4070" ∧
      Text.SameLetters (Text.trim " rtx 4070") (Text.trim second.name) ∧
      chosenAdapter environment machine = .ok first := by
  intro limits first second machine environment
  have listed : (visibleAdapters environment machine)[1]? = some second := rfl
  have set : environment.text? "INSTRATE_GPU_ADAPTER" = some " rtx 4070" := by decide +kernel
  have name : Text.trim second.name = "RTX 4070" := by decide +kernel
  have value : Text.trim " rtx 4070" = Text.asciiLowercase (Text.trim second.name) := by
    decide +kernel
  have agree : ∀ c ∈ "RTX 4070".toList, c.toNat < 0x80 ∨ Text.lowerChar c = [c] := by
    intro c member
    exact .inl (forall_toNat_lt_of_all (by decide +kernel) c member)
  have isName : IsName (Text.trim second.name) := by
    rw [name]
    have malformed : Text.readUnsigned UInt64.size "RTX 4070" = .error .invalidDigit := by
      decide +kernel
    refine ⟨by decide, ?_, ?_⟩
    · rw [(Text.lowercase_eq_asciiLowercase_iff _).mpr agree]
      decide +kernel
    · intro index read
      rw [malformed] at read
      cases read
  have same : Text.SameLetters (Text.trim " rtx 4070") (Text.trim second.name) := by
    rw [value]
    exact Text.sameLetters_asciiLowercase _
  obtain ⟨agreeing, -, agreeIff⟩ := chosenAdapter_ownName listed isName set same
  have lower := (agreeIff (by decide +kernel)).mpr (name ▸ agree)
  obtain ⟨index, -, chosen, firstNamed, found, -⟩ := agreeing lower
  refine ⟨listed, isName, set, same, ?_⟩
  rw [found]
  cases index with
  | zero => cases firstNamed.getElem?; rfl
  | succ before =>
      have contains := firstNamed.not_contains 0 (Nat.succ_pos before) first rfl
      rw [lower] at contains
      exact absurd contains (by decide +kernel)

/-- The only adapter of a machine is not found under its own name: the capital in it is small in the
selector, but stays in the name. -/
theorem chosenAdapter_ownCapital :
    let adapter : Adapter :=
      { name := "Émeraude", driver := "", type := .discrete, features := [],
        limits := ⟨1024, 1024, 65535, 1073741824, 2147483647⟩ }
    let environment : Environment := ⟨[("INSTRATE_GPU_ADAPTER", adapter.name.toUTF8)]⟩
    visibleAdapters environment [adapter] = [adapter] ∧ IsName (Text.trim adapter.name) ∧
      chosenAdapter environment [adapter] = .error (noMatch "émeraude" "") := by
  intro adapter environment
  have alone : visibleAdapters environment [adapter] = [adapter] := rfl
  have lower : Text.lowercase (Text.trim adapter.name) = "émeraude" := by decide +kernel
  have isName : IsName (Text.trim adapter.name) := by
    have malformed : Text.readUnsigned UInt64.size (Text.trim adapter.name) =
        .error .invalidDigit := by
      decide +kernel
    refine ⟨by decide +kernel, ?_, ?_⟩
    · rw [lower]
      decide
    · intro index read
      rw [malformed] at read
      cases read
  have set : environment.text? "INSTRATE_GPU_ADAPTER" = some adapter.name := by decide +kernel
  have absent : named? "émeraude" [adapter] = none := by
    rw [named?, List.find?_eq_none, List.forall_mem_singleton]
    decide +kernel
  have nonempty : visibleAdapters environment [adapter] ≠ [] := by
    rw [alone]
    exact List.cons_ne_nil _ _
  refine ⟨alone, isName, ?_⟩
  rw [chosenAdapter_of_isName nonempty set isName, alone, lower, absent]
  rfl

end OwnName

end AddRate.Gpu
