import AddRate.Kernel.Basic
import AddRate.Proofs.Text.Template

/-!
# Rendered shaders

The shader of a kernel is its body with the size of a workgroup in each place that the body leaves
for it. All else stays as it is, no place is left open, and a body with such a place has a different
shader for every size.
-/

namespace AddRate

/-! ## The placeholder -/

/-- The characters of the placeholder for the size of a workgroup. -/
abbrev placeholderChars : List Char :=
  workgroupSizePlaceholder.toList

theorem placeholderChars_ne_nil : placeholderChars ≠ [] := by
  decide

/-- No end of the placeholder is a beginning of it, so its occurrences do not overlap. -/
theorem unbordered_placeholderChars : Text.Unbordered placeholderChars := by
  unfold Text.Unbordered
  decide

theorem isDigit_of_mem_placeholderChars {c : Char} (among : c ∈ placeholderChars) :
    c.isDigit = false := by
  have none : placeholderChars.all (!·.isDigit) = true := by decide
  simpa using List.all_eq_true.mp none c among

/-- Digits do not help to complete a placeholder. -/
theorem notMem_placeholderChars_of_mem_toDigits {count : Nat} :
    ∀ c ∈ Nat.toDigits 10 count, c ∉ placeholderChars := by
  intro c member among
  have digit : c.isDigit = true := Nat.isDigit_of_mem_toDigits (by decide) (by decide) member
  rw [isDigit_of_mem_placeholderChars among] at digit
  cases digit

/-! ## Bodies -/

namespace Kernel

variable (kernel : Kernel) (localSize : UInt32) (supports : Capability → Bool)

/-- The body that a device gets: the native one if there is one and its capability is supported,
and otherwise the one for every device. -/
inductive Chooses : String → Prop where
  | native {capability : Capability} {text : String}
      (declared : kernel.native = some (capability, text))
      (supported : supports capability = true) : Chooses text
  | portable (unsupported : ∀ capability text,
      kernel.native = some (capability, text) → supports capability = false) :
      Chooses kernel.source

theorem chooses_iff {text : String} :
    kernel.Chooses supports text ↔ text = kernel.body supports := by
  unfold body
  constructor
  · intro chooses
    cases chooses with
    | native declared supported => simp [declared, supported]
    | portable unsupported =>
        cases declared : kernel.native with
        | none => rfl
        | some pair => simp [unsupported pair.1 pair.2 declared]
  · rintro rfl
    cases declared : kernel.native with
    | none => exact .portable (by simp [declared])
    | some pair =>
        cases supported : supports pair.1 with
        | true => simpa [supported] using Chooses.native declared supported
        | false =>
            simp only [supported, Bool.false_eq_true, if_false]
            apply Chooses.portable
            intro capability text other
            cases declared.symm.trans other
            exact supported

/-! ## Shaders -/

/-- The parts of the body around its placeholders. -/
def parts : List (List Char) :=
  Text.cutAt placeholderChars (kernel.body supports).toList

theorem isCut_parts :
    Text.IsCut placeholderChars (kernel.parts supports) (kernel.body supports).toList :=
  Text.isCut_cutAt placeholderChars_ne_nil _

theorem isCut_iff {others : List (List Char)} :
    Text.IsCut placeholderChars others (kernel.body supports).toList ↔
      others = kernel.parts supports := by
  constructor
  · intro cut
    exact cut.eq_cutAt placeholderChars_ne_nil unbordered_placeholderChars
  · rintro rfl
    exact kernel.isCut_parts supports

theorem toList_render :
    (kernel.render localSize supports).toList =
      (Nat.toDigits 10 localSize.toNat).intercalate (kernel.parts supports) := by
  have digits : (toString localSize).toList = Nat.toDigits 10 localSize.toNat := by
    simp [toString, Nat.repr]
  rw [render, Text.substitute, String.toList_ofList, digits,
    Text.substituteChars_eq_intercalate placeholderChars_ne_nil]
  rfl

theorem not_isInfix_render : ¬placeholderChars <:+: (kernel.render localSize supports).toList := by
  rw [toList_render]
  exact (kernel.isCut_parts supports).not_isInfix_intercalate Nat.toDigits_ne_nil
    notMem_placeholderChars_of_mem_toDigits

/-- A body without a placeholder is its own shader. -/
theorem render_of_not_isInfix (plain : ¬placeholderChars <:+: (kernel.body supports).toList) :
    kernel.render localSize supports = kernel.body supports := by
  rw [← String.toList_inj, toList_render, parts, Text.cutAt_of_not_isInfix plain,
    List.intercalate_singleton]

/-- The shader of a body with a placeholder shows for which size it is. -/
theorem eq_of_render_eq {otherSize : UInt32}
    (occurs : placeholderChars <:+: (kernel.body supports).toList)
    (same : kernel.render otherSize supports = kernel.render localSize supports) :
    otherSize = localSize := by
  have cut := kernel.isCut_parts supports
  have digits : Nat.toDigits 10 otherSize.toNat = Nat.toDigits 10 localSize.toNat := by
    rw [← String.toList_inj, toList_render, toList_render] at same
    generalize kernel.parts supports = parts at cut same
    match parts with
    | [] => exact absurd rfl cut.ne_nil
    | [whole] =>
        -- A single part would be the whole body, and no part has a placeholder.
        have eq : whole = (kernel.body supports).toList := by simpa using cut.intercalate_eq
        exact absurd (eq ▸ occurs) (cut.plain whole List.mem_cons_self)
    | first :: second :: rest => exact Text.eq_of_intercalate_eq same
  rw [← UInt32.toNat_inj, ← @Nat.ofDigitChars_ten_toDigits otherSize.toNat, digits,
    Nat.ofDigitChars_ten_toDigits]

end Kernel

/-- The shader of a kernel comes from the one body that fits the device. There is one way to cut
that body at its placeholders, and the shader has the same parts with the size between them. It has
no placeholder itself, so it is rendered as it is where it is a body. If the body has a placeholder,
another size makes another shader. -/
theorem Kernel.render_eq_intercalate (kernel : Kernel) (localSize : UInt32)
    (supports : Capability → Bool) :
    let rendered := kernel.render localSize supports
    ∃ body, (∀ text, kernel.Chooses supports text ↔ text = body) ∧
      (∃ parts, (∀ others, Text.IsCut placeholderChars others body.toList ↔ others = parts) ∧
        rendered.toList = (Nat.toDigits 10 localSize.toNat).intercalate parts) ∧
      ¬placeholderChars <:+: rendered.toList ∧
      (∀ (other : Kernel) (otherSize : UInt32) (otherSupports : Capability → Bool),
        other.body otherSupports = rendered → other.render otherSize otherSupports = rendered) ∧
      (placeholderChars <:+: body.toList →
        ∀ otherSize, kernel.render otherSize supports = rendered → otherSize = localSize) := by
  intro rendered
  have plain := kernel.not_isInfix_render localSize supports
  have again : ∀ (other : Kernel) (otherSize : UInt32) (otherSupports : Capability → Bool),
      other.body otherSupports = rendered → other.render otherSize otherSupports = rendered := by
    intro other otherSize otherSupports body
    rw [render_of_not_isInfix _ _ _ (body ▸ plain), body]
  exact ⟨kernel.body supports, fun text => kernel.chooses_iff supports,
    ⟨kernel.parts supports, fun others => kernel.isCut_iff supports,
      kernel.toList_render localSize supports⟩,
    plain, again, fun occurs otherSize => kernel.eq_of_render_eq localSize supports occurs⟩

/-- Braces around a placeholder do not make another one with the digits between them. -/
example :
    Text.substitute workgroupSizePlaceholder "64" "\x7b\x7b\x7b\x7bWG_SIZE\x7d\x7d\x7d\x7d" =
      "\x7b\x7b64\x7d\x7d" := by
  decide +kernel

end AddRate
