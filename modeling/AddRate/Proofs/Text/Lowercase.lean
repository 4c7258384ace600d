import AddRate.Text.Blank
import AddRate.Text.Lowercase
import Mathlib.Data.List.Basic
import Mathlib.Data.List.Forall2

/-!
# The two maps to lower case

The full map and the one of the letters `A` to `Z` agree on a text exactly if each of its other
characters is its own lower case. Neither map makes or removes blanks, and the full map makes
nothing below the letters out of anything else.
-/

namespace AddRate.Text

/-! ## Tables -/

/-- How many changes of membership lie at or below a point. -/
def CodePoints.changesUpTo (points : CodePoints) (point : Nat) : Nat :=
  points.changes.toList.countP (· ≤ point)

theorem CodePoints.containsPoint_eq (points : CodePoints) (point : Nat) :
    points.containsPoint point = (points.changesUpTo point % 2 == 1) := by
  rw [containsPoint, changesUpTo, Array.countP_toList]

theorem CodePoints.changesUpTo_mono (points : CodePoints) {low high : Nat} (le : low ≤ high) :
    points.changesUpTo low ≤ points.changesUpTo high := by
  apply List.countP_mono_left
  intro change member below
  rw [decide_eq_true_eq] at below ⊢
  exact Nat.le_trans below le

/-- Membership is the same at all points between two, if it does not change from one to the
other. -/
theorem CodePoints.containsPoint_eq_of_between {points : CodePoints} {low point high : Nat}
    (above : low ≤ point) (below : point ≤ high)
    (unchanged : points.changesUpTo high = points.changesUpTo low) :
    points.containsPoint point = points.containsPoint low := by
  have lower := points.changesUpTo_mono above
  have upper := points.changesUpTo_mono below
  have same : points.changesUpTo point = points.changesUpTo low := by omega
  rw [containsPoint_eq, containsPoint_eq, same]

/-- A run begins no earlier than the letters `A` to `Z`, and leads to characters behind them among
which there is no blank. -/
structure CaseRun.Proper (run : CaseRun) : Prop where
  first : 0x41 ≤ run.first
  lower : 0x61 ≤ run.first + run.shift
  valid : run.last + run.shift < 0xD800 ∨
    0xDFFF < run.first + run.shift ∧ run.last + run.shift < 0x110000
  nonblank : blanks.changesUpTo (run.first + run.shift).toNat % 2 = 0
  unchanged : blanks.changesUpTo (run.last + run.shift).toNat =
    blanks.changesUpTo (run.first + run.shift).toNat

theorem proper_of_mem_lowerRuns : ∀ run ∈ lowerRuns.toList, run.Proper := by
  have checked : ∀ run ∈ lowerRuns.toList, 0x41 ≤ run.first ∧ 0x61 ≤ run.first + run.shift ∧
      (run.last + run.shift < 0xD800 ∨
        0xDFFF < run.first + run.shift ∧ run.last + run.shift < 0x110000) ∧
      blanks.changesUpTo (run.first + run.shift).toNat % 2 = 0 ∧
      blanks.changesUpTo (run.last + run.shift).toNat =
        blanks.changesUpTo (run.first + run.shift).toNat := by
    decide +kernel
  intro run member
  obtain ⟨first, lower, valid, nonblank, unchanged⟩ := checked run member
  exact ⟨first, lower, valid, nonblank, unchanged⟩

/-- The characters that a run leads to lie behind the letters `A` to `Z` and are no blanks. -/
theorem CaseRun.Proper.of_lower?_eq_some {run : CaseRun} (proper : run.Proper) {point lower : Nat}
    (covers : run.lower? point = some lower) :
    0x41 ≤ point ∧ 0x61 ≤ (Char.ofNat lower).toNat ∧ isBlank (Char.ofNat lower) = false := by
  unfold lower? at covers
  split at covers
  · rename_i inside
    cases covers
    have bounds := proper.lower
    have valid : (point + run.shift).toNat.isValidChar := by
      rcases proper.valid with low | ⟨high, limit⟩
      · exact .inl (by omega)
      · exact .inr ⟨by omega, by omega⟩
    have same : (Char.ofNat (point + run.shift).toNat).toNat = (point + run.shift).toNat := by
      rw [Char.ofNat, dif_pos valid]
      rfl
    refine ⟨Nat.le_trans proper.first inside.1, by omega, ?_⟩
    rw [isBlank, CodePoints.contains, same, CodePoints.containsPoint_eq_of_between
      (by omega) (by omega) proper.unchanged, CodePoints.containsPoint_eq, proper.nonblank]
    rfl
  · cases covers

/-! ## One character -/

/-- The small map changes the letters `A` to `Z`. -/
theorem toNat_toLower (c : Char) :
    c.toLower.toNat =
      if 0x41 ≤ c.toNat ∧ c.toNat ≤ 0x5A then c.toNat + 0x20 else c.toNat := by
  have capital : (c.val ≥ 'A'.val ∧ c.val ≤ 'Z'.val) ↔ 0x41 ≤ c.toNat ∧ c.toNat ≤ 0x5A :=
    and_congr UInt32.le_iff_toNat_le UInt32.le_iff_toNat_le
  unfold Char.toLower
  split
  · rename_i letter
    rw [if_pos (capital.mp letter)]
    show (c.val + 32).toNat = c.val.toNat + 32
    have bound : c.val.toNat ≤ 0x5A := (capital.mp letter).2
    rw [UInt32.toNat_add]
    show (c.val.toNat + 32) % 2 ^ 32 = _
    omega
  · rename_i other
    rw [if_neg (mt capital.mpr other)]

theorem toLower_eq_self_iff (c : Char) :
    c.toLower = c ↔ ¬(0x41 ≤ c.toNat ∧ c.toNat ≤ 0x5A) := by
  rw [← Char.toNat_inj, toNat_toLower]
  split <;> omega

theorem toLower_toLower (c : Char) : c.toLower.toLower = c.toLower := by
  rw [toLower_eq_self_iff, toNat_toLower]
  split <;> omega

/-- A set does not see the small map if all capital letters are in it and all small ones, or none
of either. -/
theorem CodePoints.contains_toLower {points : CodePoints}
    (letters : points.changesUpTo 0x5A = points.changesUpTo 0x41 ∧
      points.changesUpTo 0x7A = points.changesUpTo 0x61 ∧
      points.changesUpTo 0x61 % 2 = points.changesUpTo 0x41 % 2) (c : Char) :
    points.contains c.toLower = points.contains c := by
  obtain ⟨capitals, smalls, both⟩ := letters
  rw [contains, contains, toNat_toLower]
  split
  · rename_i capital
    have small : points.containsPoint (c.toNat + 0x20) = points.containsPoint 0x61 :=
      containsPoint_eq_of_between (by omega) (by omega) smalls
    rw [small, containsPoint_eq_of_between capital.1 capital.2 capitals, containsPoint_eq,
      containsPoint_eq, both]
  · rfl

@[simp] theorem isBlank_toLower (c : Char) : isBlank c.toLower = isBlank c :=
  CodePoints.contains_toLower (by decide) c

/-- On ASCII the two maps are the same: the first run covers the letters `A` to `Z`, and all others
begin later. -/
theorem lowerChar_of_lt_128 {c : Char} (ascii : c.toNat < 0x80) : lowerChar c = [c.toLower] := by
  by_cases capital : 0x41 ≤ c.toNat ∧ c.toNat ≤ 0x5A
  · have letters : ∀ letter < 26,
        lowerChar (.ofNat (0x41 + letter)) = [(Char.ofNat (0x41 + letter)).toLower] := by
      decide +kernel
    have letter := letters (c.toNat - 0x41) (by omega)
    rwa [Nat.add_sub_cancel' capital.1, Char.ofNat_toNat] at letter
  · have runs : ∀ run ∈ lowerRuns.toList,
        run.first = 0x41 ∧ run.last = 0x5A ∨ 0x80 ≤ run.first := by
      decide +kernel
    have none_lower : lowerRuns.findSome? (·.lower? c.toNat) = none := by
      rw [← Array.findSome?_toList, List.findSome?_eq_none_iff]
      intro run member
      have bounds := runs run member
      apply if_neg
      omega
    have dotted : c ≠ 'İ' := by
      rintro rfl
      exact absurd ascii (by decide)
    rw [lowerChar, if_neg dotted, none_lower, (toLower_eq_self_iff c).mpr capital]
    rfl

/-- The letters begin at `A`. -/
theorem toLower_of_lt {c : Char} (small : c.toNat < 0x41) : c.toLower = c :=
  (toLower_eq_self_iff c).mpr fun capital => Nat.not_lt_of_le capital.1 small

theorem lowerChar_of_lt {c : Char} (small : c.toNat < 0x41) : lowerChar c = [c] := by
  rw [lowerChar_of_lt_128 (Nat.lt_trans small (by decide)), toLower_of_lt small]

/-- The full map does not see whether the small one came before. -/
theorem lowerChar_toLower (c : Char) : lowerChar c.toLower = lowerChar c := by
  by_cases capital : 0x41 ≤ c.toNat ∧ c.toNat ≤ 0x5A
  · have lower : c.toLower.toNat < 0x80 := by
      rw [toNat_toLower, if_pos capital]
      omega
    rw [lowerChar_of_lt_128 (c := c) (by omega), lowerChar_of_lt_128 lower, toLower_toLower]
  · rw [(toLower_eq_self_iff c).mpr capital]

/-- Of all characters only the dotted capital has a lower case of two characters. -/
theorem lowerChar_eq_singleton_or (c : Char) :
    (∃ d, lowerChar c = [d]) ∨ c = 'İ' ∧ lowerChar c = ['i', '\u0307'] := by
  unfold lowerChar
  by_cases dotted : c = 'İ'
  · exact .inr ⟨dotted, if_pos dotted⟩
  · exact .inl ⟨_, if_neg dotted⟩

/-- A character is its own lower case, or it is no smaller than `A` and its lower case lies behind
the letters `A` to `Z` and has no blanks. -/
theorem lowerChar_cases (c : Char) :
    lowerChar c = [c] ∨
      0x41 ≤ c.toNat ∧ ∀ d ∈ lowerChar c, 0x61 ≤ d.toNat ∧ isBlank d = false := by
  by_cases dotted : c = 'İ'
  · subst dotted
    have double : lowerChar 'İ' = ['i', '\u0307'] := if_pos rfl
    rw [double]
    refine .inr ⟨by decide, ?_⟩
    intro d member
    rcases List.mem_pair.mp member with rfl | rfl
    · exact ⟨by decide, by decide⟩
    · exact ⟨by decide, by decide⟩
  · unfold lowerChar
    rw [if_neg dotted, ← Array.findSome?_toList]
    cases found : lowerRuns.toList.findSome? (·.lower? c.toNat) with
    | none => exact .inl rfl
    | some lower =>
        obtain ⟨run, member, covers⟩ := List.exists_of_findSome?_eq_some found
        obtain ⟨first, bounds⟩ := (proper_of_mem_lowerRuns run member).of_lower?_eq_some covers
        refine .inr ⟨first, ?_⟩
        intro d among
        cases List.mem_singleton.mp among
        exact bounds

/-! ## What a character becomes in a text -/

/-- A character of a text becomes its lower case, a capital sigma one of two small ones. -/
inductive Becomes : Char → List Char → Prop where
  | plain {c : Char} (plain : c ≠ 'Σ') : Becomes c (lowerChar c)
  | sigma {small : Char} (either : small = 'σ' ∨ small = 'ς') : Becomes 'Σ' [small]

theorem exists_becomes (before : List Char) (c : Char) (rest : List Char) :
    ∃ lower, Becomes c lower ∧
      lowercaseAfter before (c :: rest) = lower ++ lowercaseAfter (c :: before) rest := by
  refine ⟨_, ?_, rfl⟩
  by_cases sigma : c = 'Σ'
  · subst sigma
    rw [if_pos rfl]
    by_cases final : (meetsCased before && !meetsCased rest) = true
    · rw [if_pos final]
      exact .sigma (.inr rfl)
    · rw [if_neg final]
      exact .sigma (.inl rfl)
  · rw [if_neg sigma]
    exact .plain sigma

namespace Becomes

variable {c : Char} {lower : List Char}

theorem eq_singleton_or (becomes : Becomes c lower) :
    (∃ d, lower = [d]) ∨ c = 'İ' ∧ lower = ['i', '\u0307'] := by
  cases becomes with
  | plain => exact lowerChar_eq_singleton_or c
  | sigma => exact .inl ⟨_, rfl⟩

theorem ne_nil (becomes : Becomes c lower) : lower ≠ [] := by
  rcases becomes.eq_singleton_or with ⟨d, rfl⟩ | ⟨-, rfl⟩ <;> simp

theorem isBlank_eq_false (becomes : Becomes c lower) (nonblank : isBlank c = false) :
    ∀ d ∈ lower, isBlank d = false := by
  intro d member
  cases becomes with
  | plain =>
      rcases lowerChar_cases c with same | ⟨-, behind⟩
      · rw [same] at member
        cases List.mem_singleton.mp member
        exact nonblank
      · exact (behind d member).2
  | sigma either =>
      cases List.mem_singleton.mp member
      rcases either with rfl | rfl
      · decide
      · decide

/-- What becomes of a character agrees with the small map exactly if it does so outside a text. -/
theorem eq_toLower_iff (becomes : Becomes c lower) :
    lower = [c.toLower] ↔ lowerChar c = [c.toLower] := by
  cases becomes with
  | plain => rfl
  | sigma either =>
      rcases either with rfl | rfl
      · decide +kernel
      · decide +kernel

/-- Where a text becomes ASCII there was no capital sigma. -/
theorem eq_lowerChar_of_lt (becomes : Becomes c lower) (ascii : ∀ d ∈ lower, d.toNat < 0x80) :
    lower = lowerChar c := by
  cases becomes with
  | plain => rfl
  | sigma either =>
      have small := ascii _ List.mem_cons_self
      rcases either with rfl | rfl
      · exact absurd small (by decide)
      · exact absurd small (by decide)

end Becomes

/-! ## Texts -/

theorem length_le_lowercaseAfter (before chars : List Char) :
    chars.length ≤ (lowercaseAfter before chars).length := by
  induction chars generalizing before with
  | nil => exact Nat.zero_le _
  | cons c rest ih =>
      obtain ⟨lower, becomes, eq⟩ := exists_becomes before c rest
      have longer := ih (c :: before)
      have nonempty := List.length_pos_iff.mpr becomes.ne_nil
      rw [eq, List.length_append, List.length_cons]
      omega

/-- A text that starts with no blank does so in lower case. -/
theorem head_lowercaseAfter (before : List Char) {chars : List Char}
    (head : ∀ c ∈ chars.head?, isBlank c = false) :
    ∀ c ∈ (lowercaseAfter before chars).head?, isBlank c = false := by
  cases chars with
  | nil => simp [lowercaseAfter]
  | cons first rest =>
      obtain ⟨lower, becomes, eq⟩ := exists_becomes before first rest
      obtain ⟨start, others, rfl⟩ := List.exists_cons_of_ne_nil becomes.ne_nil
      rw [eq]
      intro c same
      cases same
      exact becomes.isBlank_eq_false (head first rfl) start List.mem_cons_self

theorem last_lowercaseAfter (before : List Char) {chars : List Char}
    (last : ∀ c ∈ chars.getLast?, isBlank c = false) :
    ∀ c ∈ (lowercaseAfter before chars).getLast?, isBlank c = false := by
  induction chars generalizing before with
  | nil => simp [lowercaseAfter]
  | cons first rest ih =>
      obtain ⟨lower, becomes, eq⟩ := exists_becomes before first rest
      rw [eq]
      cases rest with
      | nil =>
          intro c ends
          rw [lowercaseAfter, List.append_nil] at ends
          exact becomes.isBlank_eq_false (last first rfl) c (List.mem_of_getLast? ends)
      | cons second others =>
          have longer := length_le_lowercaseAfter (first :: before) (second :: others)
          have nonempty : lowercaseAfter (first :: before) (second :: others) ≠ [] :=
            List.ne_nil_of_length_pos (Nat.lt_of_lt_of_le (Nat.succ_pos _) longer)
          rw [List.getLast?_append_of_ne_nil _ nonempty]
          exact ih (first :: before) last

/-- The two maps agree on a text exactly if they do so on each of its characters. -/
theorem lowercaseAfter_eq_map_toLower_iff {before chars : List Char} :
    lowercaseAfter before chars = chars.map Char.toLower ↔
      ∀ c ∈ chars, lowerChar c = [c.toLower] := by
  induction chars generalizing before with
  | nil => simp [lowercaseAfter]
  | cons c rest ih =>
      obtain ⟨lower, becomes, eq⟩ := exists_becomes before c rest
      rw [eq, List.map_cons, List.forall_mem_cons, ← becomes.eq_toLower_iff, ← @ih (c :: before)]
      constructor
      · intro same
        rcases becomes.eq_singleton_or with ⟨d, rfl⟩ | ⟨rfl, rfl⟩
        · obtain ⟨rfl, tails⟩ := List.cons.inj same
          exact ⟨rfl, tails⟩
        · exact absurd (List.cons.inj same).1 (by decide +kernel)
      · rintro ⟨rfl, same⟩
        rw [same]
        rfl

theorem lowerChar_eq_toLower_iff (c : Char) :
    lowerChar c = [c.toLower] ↔ c.toNat < 0x80 ∨ lowerChar c = [c] := by
  by_cases ascii : c.toNat < 0x80
  · simp [ascii, lowerChar_of_lt_128 ascii]
  · rw [(toLower_eq_self_iff c).mpr (by omega)]
    simp [ascii]

@[simp] theorem toList_lowercase (text : String) :
    (lowercase text).toList = lowercaseAfter [] text.toList :=
  String.toList_ofList

@[simp] theorem toList_asciiLowercase (text : String) :
    (asciiLowercase text).toList = text.toList.map Char.toLower :=
  String.toList_ofList

/-- The two maps agree on a text exactly if each of its characters that is not ASCII is its own
lower case. -/
theorem lowercase_eq_asciiLowercase_iff (text : String) :
    lowercase text = asciiLowercase text ↔
      ∀ c ∈ text.toList, c.toNat < 0x80 ∨ lowerChar c = [c] := by
  rw [← String.toList_inj, toList_lowercase, toList_asciiLowercase,
    lowercaseAfter_eq_map_toLower_iff]
  simp only [lowerChar_eq_toLower_iff]

/-- A text below the letters is its own lower case. -/
theorem lowercase_of_lt {text : String} (small : ∀ c ∈ text.toList, c.toNat < 0x41) :
    lowercase text = text := by
  have plain : ∀ c ∈ text.toList, c.toNat < 0x80 ∨ lowerChar c = [c] :=
    fun c member => .inr (lowerChar_of_lt (small c member))
  have unchanged : text.toList.map Char.toLower = text.toList :=
    calc
      text.toList.map Char.toLower = text.toList.map id :=
        List.map_congr_left fun c member => toLower_of_lt (small c member)
      _ = text.toList := List.map_id _
  rw [(lowercase_eq_asciiLowercase_iff text).mpr plain, ← String.toList_inj,
    toList_asciiLowercase, unchanged]

/-- A text that the full map puts below the letters was there before. -/
theorem eq_of_lowercaseAfter_lt {before chars : List Char}
    (small : ∀ d ∈ lowercaseAfter before chars, d.toNat < 0x41) :
    lowercaseAfter before chars = chars := by
  induction chars generalizing before with
  | nil => rfl
  | cons c rest ih =>
      obtain ⟨lower, becomes, eq⟩ := exists_becomes before c rest
      rw [eq] at small ⊢
      have smallLower : ∀ d ∈ lower, d.toNat < 0x41 :=
        fun d member => small d (List.mem_append_left _ member)
      have plain := becomes.eq_lowerChar_of_lt fun d member => by
        have := smallLower d member
        omega
      rw [ih fun d member => small d (List.mem_append_right _ member)]
      rcases lowerChar_cases c with same | ⟨-, behind⟩
      · rw [plain, same]
        rfl
      · obtain ⟨d, member⟩ := List.exists_mem_of_ne_nil lower becomes.ne_nil
        have low := smallLower d member
        have high := (behind d (plain ▸ member)).1
        omega

/-! ## Changes of case -/

/-- Two texts have the same letters one by one, be they capital or small. -/
def SameLetters (text other : String) : Prop :=
  List.Forall₂ (fun c d => lowerChar c = lowerChar d) text.toList other.toList

theorem SameLetters.refl (text : String) : SameLetters text text :=
  List.forall₂_same.mpr fun _ _ => rfl

theorem sameLetters_asciiLowercase (text : String) : SameLetters (asciiLowercase text) text := by
  rw [SameLetters, toList_asciiLowercase, List.forall₂_map_left_iff]
  exact List.forall₂_same.mpr fun c _ => lowerChar_toLower c

theorem SameLetters.length_eq {text other : String} (same : SameLetters text other) :
    text.toList.length = other.toList.length :=
  List.Forall₂.length_eq same

/-- If a text becomes ASCII, so does every other with the same letters, and the same. -/
theorem lowercaseAfter_eq_of_forall₂ {before chars after others : List Char}
    (same : List.Forall₂ (fun c d => lowerChar c = lowerChar d) chars others)
    (ascii : ∀ d ∈ lowercaseAfter before chars, d.toNat < 0x80) :
    lowercaseAfter after others = lowercaseAfter before chars := by
  induction same generalizing before after with
  | nil => rfl
  | @cons c d rest rest' letter _ ih =>
      obtain ⟨lower, becomes, eq⟩ := exists_becomes before c rest
      obtain ⟨lower', becomes', eq'⟩ := exists_becomes after d rest'
      rw [eq] at ascii ⊢
      rw [eq', ih fun d member => ascii d (List.mem_append_right _ member)]
      have asciiLower : ∀ d ∈ lower, d.toNat < 0x80 :=
        fun d member => ascii d (List.mem_append_left _ member)
      have plain := becomes.eq_lowerChar_of_lt asciiLower
      rw [letter] at plain
      cases becomes' with
      | plain => rw [plain]
      | sigma =>
          have sigma : 'σ' ∈ lower := by
            rw [plain]
            decide +kernel
          exact absurd (asciiLower 'σ' sigma) (by decide)

theorem SameLetters.lowercase_eq {text other : String} (same : SameLetters text other)
    (ascii : ∀ d ∈ (lowercase text).toList, d.toNat < 0x80) : lowercase other = lowercase text := by
  rw [toList_lowercase] at ascii
  exact congrArg String.ofList (lowercaseAfter_eq_of_forall₂ same ascii)

theorem contains_caseIgnorable_toLower (c : Char) :
    caseIgnorable.contains c.toLower = caseIgnorable.contains c :=
  CodePoints.contains_toLower (by decide +kernel) c

theorem contains_cased_toLower (c : Char) : cased.contains c.toLower = cased.contains c :=
  CodePoints.contains_toLower (by decide +kernel) c

theorem meetsCased_cons (c : Char) (rest : List Char) :
    meetsCased (c :: rest) =
      if caseIgnorable.contains c then meetsCased rest else cased.contains c := by
  unfold meetsCased
  rw [List.dropWhile_cons]
  by_cases ignored : caseIgnorable.contains c = true
  · rw [if_pos ignored, if_pos ignored]
  · rw [if_neg ignored, if_neg ignored]

/-- The small map keeps the neighbours of a capital sigma cased or uncased. -/
theorem meetsCased_map_toLower (chars : List Char) :
    meetsCased (chars.map Char.toLower) = meetsCased chars := by
  induction chars with
  | nil => rfl
  | cons c rest ih =>
      rw [List.map_cons, meetsCased_cons, meetsCased_cons, contains_caseIgnorable_toLower,
        contains_cased_toLower, ih]

theorem lowercaseAfter_map_toLower (before chars : List Char) :
    lowercaseAfter (before.map Char.toLower) (chars.map Char.toLower) =
      lowercaseAfter before chars := by
  induction chars generalizing before with
  | nil => rfl
  | cons c rest ih =>
      have sigma : c.toLower = 'Σ' ↔ c = 'Σ' := by
        rw [← Char.toNat_inj, ← Char.toNat_inj, toNat_toLower]
        show _ = 0x3A3 ↔ _ = 0x3A3
        split <;> omega
      simp only [List.map_cons, lowercaseAfter, sigma, meetsCased_map_toLower, lowerChar_toLower]
      rw [← ih (c :: before), List.map_cons]

/-- The full map does not see whether the small one came before. -/
theorem lowercase_asciiLowercase (text : String) :
    lowercase (asciiLowercase text) = lowercase text := by
  rw [lowercase, toList_asciiLowercase]
  exact congrArg String.ofList (lowercaseAfter_map_toLower [] text.toList)

end AddRate.Text
