import AddRate.Text.Blank
import AddRate.Text.Substring
import Mathlib.Data.List.DropRight
import Mathlib.Data.List.Infix

/-!
# Parts of texts

Trimming takes away the blanks around a text and nothing else, and what is left is determined by
that. So is the part of a text in front of the first mark. A part that neither starts nor ends with
a blank occurs in a text exactly if it occurs between the blanks around it.
-/

namespace AddRate.Text

/-! ## Trimmed texts -/

/-- A text is a core with blanks around it, and the core neither starts nor ends with a blank. -/
structure IsTrim (chars core : List Char) : Prop where
  exists_eq : ∃ before behind, chars = before ++ core ++ behind ∧
    (∀ c ∈ before, isBlank c = true) ∧ ∀ c ∈ behind, isBlank c = true
  head : ∀ c ∈ core.head?, isBlank c = false
  last : ∀ c ∈ core.getLast?, isBlank c = false

/-- Nothing is dropped in front of a first character that is no blank. -/
theorem dropWhile_isBlank_of_head {chars : List Char}
    (head : ∀ c ∈ chars.head?, isBlank c = false) : chars.dropWhile isBlank = chars := by
  cases chars with
  | nil => rfl
  | cons c rest =>
      rw [List.dropWhile_cons_of_neg]
      simp [head c rfl]

theorem head_dropWhile_isBlank (chars : List Char) :
    ∀ c ∈ (chars.dropWhile isBlank).head?, isBlank c = false := by
  intro c first
  have nonempty : chars.dropWhile isBlank ≠ [] := by
    intro empty
    rw [empty] at first
    cases first
  rw [List.head?_eq_some_head nonempty] at first
  cases first
  exact List.head_dropWhile_not isBlank nonempty

/-- The start of a text starts with no blank if the text does not. -/
theorem head_of_isPrefix {chars front : List Char} (start : front <+: chars)
    (head : ∀ c ∈ chars.head?, isBlank c = false) : ∀ c ∈ front.head?, isBlank c = false := by
  obtain ⟨rest, rfl⟩ := start
  intro c first
  apply head c
  rw [List.head?_append, Option.mem_def.mp first]
  rfl

theorem isTrim_trimChars (chars : List Char) : IsTrim chars (trimChars chars) := by
  have split : chars = chars.takeWhile isBlank ++ trimChars chars ++
      (chars.dropWhile isBlank).rtakeWhile isBlank := by
    rw [List.append_assoc]
    show _ = _ ++ (List.rdropWhile isBlank _ ++ List.rtakeWhile isBlank _)
    rw [List.rdropWhile_append_rtakeWhile, List.takeWhile_append_dropWhile]
  have starts : ∀ c ∈ (trimChars chars).head?, isBlank c = false :=
    head_of_isPrefix (List.rdropWhile_prefix isBlank (chars.dropWhile isBlank))
      (head_dropWhile_isBlank chars)
  have ends : ∀ c ∈ (trimChars chars).getLast?, isBlank c = false := by
    intro c last
    rw [trimChars, List.getLast?_reverse] at last
    exact head_dropWhile_isBlank _ c last
  exact ⟨⟨_, _, split, fun _ => List.mem_takeWhile_imp, fun _ => List.mem_rtakeWhile_imp⟩,
    starts, ends⟩

theorem IsTrim.trimChars_eq {chars core : List Char} (trimmed : IsTrim chars core) :
    trimChars chars = core := by
  obtain ⟨⟨before, behind, rfl, blankBefore, blankBehind⟩, head, last⟩ := trimmed
  have front : (before ++ core ++ behind).dropWhile isBlank =
      (core ++ behind).dropWhile isBlank := by
    rw [List.append_assoc, List.dropWhile_append_of_pos blankBefore]
  have reversed : ∀ c ∈ behind.reverse, isBlank c = true := by
    intro c member
    exact blankBehind c (List.mem_reverse.mp member)
  rw [trimChars, front]
  cases core with
  | nil =>
      rw [List.nil_append, List.dropWhile_eq_nil_iff.mpr blankBehind]
      rfl
  | cons c rest =>
      have stays : (c :: rest ++ behind).dropWhile isBlank = c :: rest ++ behind :=
        dropWhile_isBlank_of_head head
      rw [stays, List.reverse_append, List.dropWhile_append_of_pos reversed,
        dropWhile_isBlank_of_head, List.reverse_reverse]
      rwa [List.head?_reverse]

theorem isTrim_trim (text : String) : IsTrim text.toList (trim text).toList := by
  rw [trim, String.toList_ofList]
  exact isTrim_trimChars text.toList

/-! ## Parts of a text up to a mark -/

/-- Of a text that starts with a part and a mark, the part is what stands before the first mark. -/
theorem eq_of_isPrefix_of_notMem {mark : Char} {part other rest : List Char} (plain : mark ∉ part)
    (otherPlain : mark ∉ other) (starts : part ++ [mark] <+: other ++ mark :: rest) :
    part = other := by
  obtain ⟨behind, eq⟩ := starts
  have upTo (front back : List Char) (free : mark ∉ front) :
      (front ++ mark :: back).takeWhile (· != mark) = front := by
    rw [List.takeWhile_append_of_pos]
    · simp
    · intro c member
      have ne : c ≠ mark := by
        rintro rfl
        exact free member
      simpa using ne
  rw [← upTo part behind plain, ← upTo other rest otherPlain, ← eq, List.append_assoc]
  rfl

/-! ## Parts of a text between blanks -/

theorem occursIn_iff_isInfix {part chars : List Char} :
    occursIn part chars = true ↔ part <:+: chars := by
  induction chars with
  | nil => simp [occursIn]
  | cons c rest ih => simp [occursIn, ih, List.infix_cons_iff]

theorem contains_iff_isInfix {part text : String} :
    contains part text = true ↔ part.toList <:+: text.toList :=
  occursIn_iff_isInfix

variable {part before chars behind : List Char}

/-- A part that does not start with a blank does not start among blanks. -/
theorem isInfix_of_isInfix_blanks_append (blank : ∀ c ∈ before, isBlank c = true)
    (nonempty : part ≠ []) (head : ∀ c ∈ part.head?, isBlank c = false)
    (occurs : part <:+: before ++ chars) : part <:+: chars := by
  induction before with
  | nil => exact occurs
  | cons c rest ih =>
      rw [List.cons_append, List.infix_cons_iff] at occurs
      rcases occurs with here | later
      · obtain ⟨first, others, rfl⟩ := List.exists_cons_of_ne_nil nonempty
        obtain ⟨rfl, -⟩ := List.cons_prefix_cons.mp here
        have blankFirst := blank first List.mem_cons_self
        rw [head first rfl] at blankFirst
        cases blankFirst
      · exact ih (fun d member => blank d (List.mem_cons_of_mem _ member)) later

/-- A part between blanks is where a part can occur that neither starts nor ends with one. -/
theorem isInfix_of_isInfix_between (blankBefore : ∀ c ∈ before, isBlank c = true)
    (blankBehind : ∀ c ∈ behind, isBlank c = true) (nonempty : part ≠ [])
    (head : ∀ c ∈ part.head?, isBlank c = false) (last : ∀ c ∈ part.getLast?, isBlank c = false)
    (occurs : part <:+: before ++ chars ++ behind) : part <:+: chars := by
  rw [List.append_assoc] at occurs
  have inside := isInfix_of_isInfix_blanks_append blankBefore nonempty head occurs
  have reversed : ∀ c ∈ behind.reverse, isBlank c = true := by
    intro c member
    exact blankBehind c (List.mem_reverse.mp member)
  rw [← List.reverse_infix, List.reverse_append] at inside
  rw [← List.reverse_infix]
  refine isInfix_of_isInfix_blanks_append reversed (mt List.reverse_eq_nil_iff.mp nonempty) ?_
    inside
  rwa [List.head?_reverse]

end AddRate.Text
