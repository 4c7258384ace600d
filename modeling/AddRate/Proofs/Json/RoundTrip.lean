import AddRate.Json.Printer
import AddRate.Proofs.Json.Reading

/-!
# Compact texts read back

The compact text of a value with proper numbers spells the value and lies within one line, so
reading it gives the value back. Nothing is asked of the strings: any text may stand in them.
-/

namespace AddRate.Json

/-! ## Strings -/

/-- A character is escaped with a letter of its own or as a code unit, or stands for itself. -/
theorem escapedChar_cases (c : Char) :
    (∃ letter, escapedChar c = ['\\', letter] ∧ letter ≠ 'u' ∧ escaped? letter = some c) ∨
      (c.toNat < 0x20 ∧ escapedChar c =
        ['\\', 'u', '0', '0', Nat.digitChar (c.toNat / 16), Nat.digitChar (c.toNat % 16)]) ∨
      (0x20 ≤ c.toNat ∧ c ≠ '"' ∧ c ≠ '\\' ∧ escapedChar c = [c]) := by
  unfold escapedChar
  split
  · exact .inl ⟨'"', rfl, by decide, rfl⟩
  · exact .inl ⟨'\\', rfl, by decide, rfl⟩
  · exact .inl ⟨'b', rfl, by decide, rfl⟩
  · exact .inl ⟨'f', rfl, by decide, rfl⟩
  · exact .inl ⟨'n', rfl, by decide, rfl⟩
  · exact .inl ⟨'r', rfl, by decide, rfl⟩
  · exact .inl ⟨'t', rfl, by decide, rfl⟩
  · next quote backslash _ _ _ _ _ =>
    by_cases control : c.toNat < 0x20
    · rw [if_pos control]
      exact .inr (.inl ⟨control, rfl⟩)
    · rw [if_neg control]
      exact .inr (.inr ⟨Nat.le_of_not_lt control, quote, backslash, rfl⟩)

/-- Whichever way a character is escaped, it is written as one piece, which means that character. -/
theorem exists_piece_escapedChar (c : Char) :
    ∃ piece, (∀ {body pieces}, StringBody body pieces →
        StringBody (escapedChar c ++ body) (piece :: pieces)) ∧
      ∀ behind, Piece.text? (piece :: behind) = (Piece.text? behind).map (c :: ·) := by
  rcases escapedChar_cases c with ⟨letter, escaped, -, meant⟩ | ⟨control, escaped⟩ |
    ⟨printable, quote, backslash, escaped⟩
  · rw [escaped]
    exact ⟨.char c, .letter meant, fun _ => rfl⟩
  · refine ⟨.unit c.toNat, ?_, ?_⟩
    -- Two zeros and two digits of the code make the four digits of a unit.
    · have high := Text.hexValue?_digitChar (c.toNat / 16) (by omega)
      have low := Text.hexValue?_digitChar (c.toNat % 16) (by omega)
      have zero := Text.hexValue?_digitChar 0 (by decide)
      have whole : c.toNat / 16 * 16 + c.toNat % 16 = c.toNat := by omega
      have spells : hexCode? 0 ['0', '0', Nat.digitChar (c.toNat / 16),
          Nat.digitChar (c.toNat % 16)] = some c.toNat := by
        show hexCode? 0 [Nat.digitChar 0, Nat.digitChar 0, Nat.digitChar (c.toNat / 16),
          Nat.digitChar (c.toNat % 16)] = some c.toNat
        simp [hexCode?, high, low, zero, whole]
      rw [escaped]
      intro body pieces rest
      exact .unit rfl spells rest
    -- Control characters are no halves of a surrogate pair.
    · intro behind
      rw [Piece.text?.eq_def]
      dsimp only
      rw [if_neg (by omega), if_neg (by omega), Char.ofNat_toNat]
  · rw [escaped]
    exact ⟨.char c, .char printable quote backslash, fun _ => rfl⟩

/-- A text in quotes is written as pieces that mean that text. -/
theorem exists_stringBody_escaped (text : List Char) :
    ∃ pieces, StringBody (text.flatMap escapedChar) pieces ∧ Piece.text? pieces = some text := by
  induction text with
  | nil => exact ⟨[], .nil, rfl⟩
  | cons c text ih =>
      obtain ⟨piece, written, means⟩ := exists_piece_escapedChar c
      obtain ⟨pieces, writtenRest, meansRest⟩ := ih
      refine ⟨piece :: pieces, written writtenRest, ?_⟩
      rw [means, meansRest]
      rfl

theorem lexeme_quotedChars (text : Option (List Char)) :
    Lexeme (quotedChars text) (.string text) := by
  cases text with
  | none => exact .string (@StringBody.unit ['d', '8', '0', '0'] 0xD800 [] [] rfl rfl .nil)
  | some text =>
      obtain ⟨pieces, stringBody, means⟩ := exists_stringBody_escaped text
      have written := Lexeme.string stringBody
      rwa [means] at written

/-! ## Compact texts spell their values -/

/-- How a member stands in an object. -/
def pairChars (member : Option (List Char) × Json) : List Char :=
  quotedChars member.1 ++ ':' :: member.2.compactChars

theorem itemChars_eq (items : List Json) :
    itemChars items = [','].intercalate (items.map compactChars) := by
  induction items with
  | nil => rfl
  | cons item rest ih =>
      cases rest with
      | nil => simp [itemChars]
      | cons next rest => simpa [itemChars] using ih

theorem memberChars_eq (members : List (Option (List Char) × Json)) :
    memberChars members = [','].intercalate (members.map pairChars) := by
  induction members with
  | nil => rfl
  | cons member rest ih =>
      cases rest with
      | nil => simp [memberChars, pairChars]
      | cons next rest => simpa [memberChars, pairChars] using ih

/-- The compact text of a value spells it without a blank. -/
theorem spelledBy_compactChars {value : Json} (wellFormed : value.WellFormed) :
    value.SpelledBy value.compactChars := by
  induction wellFormed with
  | null => exact .of_lexeme .null
  | bool value =>
      cases value with
      | true => exact .of_lexeme .true
      | false => exact .of_lexeme .false
  | number isNumber => exact .of_lexeme (.number (isNumber_iff.mp isNumber))
  | string text => exact .of_lexeme (lexeme_quotedChars text)
  | array each ih =>
      rw [SpelledBy, compactChars, tokens, itemChars_eq, itemTokens_eq]
      have items := Spaced.intercalate ih
      exact .cons .openArray (items.append (.of_lexeme .closeArray))
  | object each ih =>
      rw [SpelledBy, compactChars, tokens, memberChars_eq, memberTokens_eq]
      have members := Spaced.intercalate fun member among =>
        Spaced.token (lexeme_quotedChars member.1) (.cons .colon (ih member among))
      exact .cons .openObject (members.append (.of_lexeme .closeObject))

/-- Reading the compact text of a value gives the value back. -/
theorem ofChars?_compactChars {value : Json} (wellFormed : value.WellFormed) :
    ofChars? value.compactChars = some value :=
  ofChars?_eq_some_iff.mpr (spelledBy_compactChars wellFormed)

/-- The same for texts that are strings. -/
theorem parse?_compact {value : Json} (wellFormed : value.WellFormed) :
    parse? value.compact = some value := by
  rw [parse?, compact, String.toList_ofList]
  exact ofChars?_compactChars wellFormed

/-! ## Compact texts lie within a line -/

theorem newline_notMem_escapedChar (c : Char) : '\n' ∉ escapedChar c := by
  have noLetter : ∀ digit < 16, Nat.digitChar digit ≠ '\n' := by decide
  rcases escapedChar_cases c with ⟨letter, escaped, -, meant⟩ | ⟨control, escaped⟩ |
    ⟨printable, -, -, escaped⟩
  · have letterNe : letter ≠ '\n' := by
      rintro rfl
      cases meant
    rw [escaped]
    simp [letterNe.symm]
  · rw [escaped]
    simp [(noLetter (c.toNat / 16) (by omega)).symm, (noLetter (c.toNat % 16) (by omega)).symm]
  · rw [escaped, List.mem_singleton]
    rintro rfl
    exact absurd printable (by decide)

theorem newline_notMem_quotedChars (text : Option (List Char)) : '\n' ∉ quotedChars text := by
  cases text with
  | none => decide
  | some text => simp [quotedChars, newline_notMem_escapedChar]

/-- No compact text has a line of its own within it: line ends in strings are escaped. -/
theorem newline_notMem_compactChars {value : Json} (wellFormed : value.WellFormed) :
    '\n' ∉ value.compactChars := by
  induction wellFormed with
  | null => decide
  | bool value => cases value <;> decide
  | number isNumber => exact isNumber.newline_notMem
  | string text => exact newline_notMem_quotedChars text
  | array each ih =>
      have items := notMem_intercalate (by decide : '\n' ∉ [',']) (List.forall_mem_map.mpr ih)
      simp [compactChars, itemChars_eq, items]
  | @object members each ih =>
      have pairs : ∀ pair ∈ members.map pairChars, '\n' ∉ pair := by
        refine List.forall_mem_map.mpr ?_
        intro member among
        simp [pairChars, newline_notMem_quotedChars, ih member among]
      have members := notMem_intercalate (by decide : '\n' ∉ [',']) pairs
      simp [compactChars, memberChars_eq, members]

end AddRate.Json
