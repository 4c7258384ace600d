import AddRate.Json.Token
import AddRate.Proofs.Json.Number
import Mathlib.Data.List.Chain

/-!
# Tokens of values

The tokens that a value is written with, in their order. Among them there is always something
between two scalars. Nothing is asked of the strings of a value, but its numbers have to be numbers.
-/

namespace AddRate.Json

/-! ## Values with proper numbers -/

/-- Every number in the value has a literal that is one. -/
inductive WellFormed : Json → Prop where
  | null : WellFormed .null
  | bool (value : Bool) : WellFormed (.bool value)
  | number {literal : List Char} (isNumber : IsNumber literal) : WellFormed (.number literal)
  | string (text : Option (List Char)) : WellFormed (.string text)
  | array {items : List Json} (each : ∀ item ∈ items, WellFormed item) : WellFormed (.array items)
  | object {members : List (Option (List Char) × Json)}
      (each : ∀ member ∈ members, WellFormed member.2) : WellFormed (.object members)

theorem wellFormed_ofString (text : String) : (ofString text).WellFormed :=
  .string _

theorem wellFormed_ofNat (count : Nat) : (ofNat count).WellFormed :=
  .number (isNumber_toDigits count)

theorem wellFormed_ofDouble (x : Binary.Double) : (ofDouble x).WellFormed := by
  rcases ofDouble_cases x with null | ⟨literal, number, isNumber⟩
  · rw [null]
    exact .null
  · rw [number]
    exact .number isNumber

/-! ## Values and their parts -/

/-- What holds of a value if it holds of its items or members holds of every value. -/
@[elab_as_elim]
theorem forallParts {motive : Json → Prop} (null : motive .null)
    (bool : ∀ value, motive (.bool value)) (number : ∀ literal, motive (.number literal))
    (string : ∀ text, motive (.string text))
    (array : ∀ items, (∀ item ∈ items, motive item) → motive (.array items))
    (object : ∀ members, (∀ member ∈ members, motive member.2) → motive (.object members))
    (value : Json) : motive value :=
  match value with
  | .null => null
  | .bool value => bool value
  | .number literal => number literal
  | .string text => string text
  | .array items => array items fun item _ =>
      forallParts null bool number string array object item
  | .object members => object members fun member _ =>
      forallParts null bool number string array object member.2
termination_by sizeOf value
decreasing_by
  · have smaller := List.sizeOf_lt_of_mem ‹item ∈ items›
    simp only [Json.array.sizeOf_spec]
    omega
  · have smaller := List.sizeOf_lt_of_mem ‹member ∈ members›
    cases member
    simp only [Json.object.sizeOf_spec, Prod.mk.sizeOf_spec] at smaller ⊢
    omega

/-! ## Tokens of a value -/

mutual

def tokens : Json → List Token
  | .null => [.scalar .null]
  | .bool value => [.scalar (.bool value)]
  | .number literal => [.scalar (.number literal)]
  | .string text => [.string text]
  | .array items => .openArray :: itemTokens items ++ [.closeArray]
  | .object members => .openObject :: memberTokens members ++ [.closeObject]

/-- The tokens of items with commas between them. -/
def itemTokens : List Json → List Token
  | [] => []
  | [item] => item.tokens
  | item :: next :: rest => item.tokens ++ .comma :: itemTokens (next :: rest)

/-- The tokens of members with commas between them. -/
def memberTokens : List (Option (List Char) × Json) → List Token
  | [] => []
  | [(name, value)] => .string name :: .colon :: value.tokens
  | (name, value) :: next :: rest =>
    .string name :: .colon :: value.tokens ++ .comma :: memberTokens (next :: rest)

end

/-! ### Items and members joined by commas -/

theorem intercalate_concat {α : Type} (separator : List α) (parts : List (List α)) (last : List α) :
    separator.intercalate (parts ++ [last]) = parts.flatMap (· ++ separator) ++ last := by
  induction parts with
  | nil => simp
  | cons part rest ih => simp [List.intercalate_cons_of_ne_nil, ih]

theorem subset_intercalate {α : Type} (separator : List α) {parts : List (List α)}
    {part : List α} (among : part ∈ parts) : part ⊆ separator.intercalate parts := by
  induction parts with
  | nil => cases among
  | cons first rest ih =>
      cases rest with
      | nil => simp [List.mem_singleton.mp among]
      | cons next rest =>
          rw [List.intercalate_cons_cons]
          rcases List.mem_cons.mp among with rfl | among
          · simp [List.append_assoc]
          · exact List.subset_append_of_subset_right _ (ih among)

theorem notMem_intercalate {α : Type} {a : α} {separator : List α} {parts : List (List α)}
    (apart : a ∉ separator) (each : ∀ part ∈ parts, a ∉ part) :
    a ∉ separator.intercalate parts := by
  induction parts with
  | nil => exact List.not_mem_nil
  | cons part rest ih =>
      have first := each part List.mem_cons_self
      have others := ih fun other member => each other (List.mem_cons_of_mem _ member)
      cases rest with
      | nil => simpa using first
      | cons next rest => simp [List.intercalate_cons_cons, apart, first, others]

/-- The tokens of a member. -/
def pairTokens (member : Option (List Char) × Json) : List Token :=
  .string member.1 :: .colon :: member.2.tokens

theorem itemTokens_eq (items : List Json) :
    itemTokens items = [Token.comma].intercalate (items.map tokens) := by
  induction items with
  | nil => rfl
  | cons item rest ih =>
      cases rest with
      | nil => simp [itemTokens]
      | cons next rest => simpa [itemTokens] using ih

theorem memberTokens_eq (members : List (Option (List Char) × Json)) :
    memberTokens members = [Token.comma].intercalate (members.map pairTokens) := by
  induction members with
  | nil => rfl
  | cons member rest ih =>
      cases rest with
      | nil => simp [memberTokens, pairTokens]
      | cons next rest => simpa [memberTokens, pairTokens] using ih

/-! ### Scalars -/

/-- A token that has no end of its own: what follows it has to be something else. -/
def Token.isScalar : Token → Bool
  | .scalar _ => true
  | _ => false

/-- No two scalars are next to each other. -/
def Separated (tokens : List Token) : Prop :=
  tokens.IsChain fun first second => first.isScalar = false ∨ second.isScalar = false

namespace Separated

variable {first second : List Token} {mark : Token}

theorem cons (separated : Separated second) (notScalar : mark.isScalar = false) :
    Separated (mark :: second) :=
  List.isChain_cons.mpr ⟨fun _ _ => .inl notScalar, separated⟩

theorem append_cons (separated : Separated first) (rest : Separated second)
    (notScalar : mark.isScalar = false) : Separated (first ++ mark :: second) := by
  refine List.isChain_append.mpr ⟨separated, rest.cons notScalar, ?_⟩
  intro last _ next head
  cases head
  exact .inr notScalar

theorem singleton (token : Token) : Separated [token] :=
  List.isChain_singleton token

end Separated

theorem Separated.intercalate {parts : List (List Token)} (each : ∀ part ∈ parts, Separated part) :
    Separated ([Token.comma].intercalate parts) := by
  induction parts with
  | nil => exact List.isChain_nil
  | cons part rest ih =>
      have first := each part List.mem_cons_self
      have others := ih fun other member => each other (List.mem_cons_of_mem _ member)
      cases rest with
      | nil => simpa using first
      | cons next rest =>
          rw [List.intercalate_cons_cons, List.append_assoc]
          exact first.append_cons others rfl

theorem separated_tokens (value : Json) : Separated value.tokens := by
  induction value using forallParts with
  | null => exact .singleton _
  | bool value => exact .singleton _
  | number literal => exact .singleton _
  | string text => exact .singleton _
  | array items each =>
      rw [tokens, itemTokens_eq]
      have separated := Separated.intercalate (List.forall_mem_map.mpr each)
      exact (separated.append_cons List.isChain_nil rfl).cons rfl
  | object members each =>
      rw [tokens, memberTokens_eq]
      have separated : Separated ([Token.comma].intercalate (members.map pairTokens)) := by
        refine Separated.intercalate (List.forall_mem_map.mpr ?_)
        intro member among
        exact ((each member among).cons rfl).cons rfl
      exact (separated.append_cons List.isChain_nil rfl).cons rfl

end AddRate.Json
