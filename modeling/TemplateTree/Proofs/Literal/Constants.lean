import Mathlib
import TemplateTree.Literal.Reader
import TemplateTree.Proofs.Literal.Evaluation

/-! # Literals made of constants

Literals without embedded expressions and with no numbers but integers of 64 bits. Each is
written like a JSON value. -/

namespace TemplateTree.Literal

variable {ν : Type}

/-- Induction over literals: what holds of all parts of a container holds of it. -/
@[elab_as_elim]
theorem inductionOn {motive : Literal → Prop}
    (scalar : ∀ literal : Literal, literal.isContainer = false → motive literal)
    (list : ∀ items, (∀ item ∈ items, motive item) → motive (.list items))
    (object : ∀ entries : List (StringConstant × Literal), (∀ entry ∈ entries, motive entry.2) →
      motive (.object entries)) :
    ∀ literal : Literal, motive literal
  | .string _ => scalar _ rfl
  | .number _ => scalar _ rfl
  | .bool _ => scalar _ rfl
  | .null => scalar _ rfl
  | .expression _ => scalar _ rfl
  | .list items => list items fun item _ => inductionOn scalar list object item
  | .object entries => object entries fun (key, value) h =>
      have : sizeOf value < sizeOf entries :=
        Nat.lt_trans (by rw [Prod.mk.sizeOf_spec]; omega) (List.sizeOf_lt_of_mem h)
      inductionOn scalar list object value

/-! ## Constants -/

/-- The integer with these digits and this sign. -/
def NumberConstant.value (n : NumberConstant) : Int :=
  let magnitude : Int := n.digits.toNat?.getD 0
  if n.negative then -magnitude else magnitude

/-- An integer of 64 bits without a suffix. Minus zero is not written like an integer. -/
structure NumberConstant.IsInteger (n : NumberConstant) : Prop where
  float : n.float = false
  suffix : n.suffix = ""
  text : n.text = toString n.value
  range : -(twoTo 63 : Int) ≤ n.value ∧ n.value < twoTo 63

/-- No embedded expressions, and no numbers other than integers of 64 bits. -/
inductive IsConstant : Literal → Prop
  | string {text} : IsConstant (.string text)
  | number {value} : value.IsInteger → IsConstant (.number value)
  | bool {value} : IsConstant (.bool value)
  | null : IsConstant .null
  | object {entries : List (StringConstant × Literal)} :
      (∀ entry ∈ entries, IsConstant entry.2) → IsConstant (.object entries)
  | list {items} : (∀ item ∈ items, IsConstant item) → IsConstant (.list items)

mutual

/-- The JSON value that a literal is written like. -/
def toJson : Literal → Json
  | .string text => .string text.value
  | .number value => .number (.integer value.value)
  | .bool value => .bool value
  | .null | .expression _ => .null
  | .object entries => .object (entriesToJson entries)
  | .list items => .array (itemsToJson items)

def entriesToJson : List (StringConstant × Literal) → List (String × Json)
  | [] => []
  | (key, value) :: rest => (key.value, value.toJson) :: entriesToJson rest

def itemsToJson : List Literal → List Json
  | [] => []
  | item :: rest => item.toJson :: itemsToJson rest

end

mutual

/-- The bags in a literal as a template, each with its entries. -/
def templateBags : Literal → List (List (StringConstant × Literal))
  | .object [(_, value)] => value.contentBags
  | _ => []

def contentBags : Literal → List (List (StringConstant × Literal))
  | .object entries => entries :: entriesBags entries
  | .list items => itemsBags items
  | _ => []

def listBags : Literal → List (List (StringConstant × Literal))
  | .list items => itemsBags items
  | _ => []

def entryBags : StringConstant × Literal → List (List (StringConstant × Literal))
  | (key, value) =>
    match EntryKind.ofKey key.value value.isContainer with
    | .children => value.listBags
    | .child => value.contentBags
    | .html | .style | .attr => []

def entriesBags : List (StringConstant × Literal) → List (List (StringConstant × Literal))
  | [] => []
  | entry :: rest => entryBags entry ++ entriesBags rest

def itemsBags : List Literal → List (List (StringConstant × Literal))
  | [] => []
  | item :: rest => item.templateBags ++ itemsBags rest

end

/-- The `html` and `style` of the bags are no containers. -/
def HoldText (bags : List (List (StringConstant × Literal))) : Prop :=
  ∀ bag ∈ bags, ∀ entry ∈ bag, entry.1.value = htmlKey ∨ entry.1.value = styleKey →
    entry.2.isContainer = false

theorem itemsToJson_eq_map (items : List Literal) : itemsToJson items = items.map toJson := by
  induction items with
  | nil => rfl
  | cons item rest ih => rw [itemsToJson, ih, List.map_cons]

theorem isContainer_toJson (literal : Literal) : literal.toJson.isContainer = literal.isContainer := by
  cases literal <;> rfl

theorem of_toJson (key : String) (literal : Literal) :
    EntryKind.of key literal.toJson = EntryKind.ofKey key literal.isContainer := by
  rw [EntryKind.of, isContainer_toJson]

theorem holdText_append {first second : List (List (StringConstant × Literal))} :
    HoldText (first ++ second) ↔ HoldText first ∧ HoldText second :=
  List.forall_mem_append

theorem holdText_itemsBags {items : List Literal} :
    HoldText (itemsBags items) ↔ ∀ item ∈ items, HoldText item.templateBags := by
  induction items with
  | nil => exact iff_of_true nofun nofun
  | cons item rest ih => rw [itemsBags, holdText_append, ih, List.forall_mem_cons]

theorem isConstant_list_iff {items : List Literal} :
    (Literal.list items).IsConstant ↔ ∀ item ∈ items, item.IsConstant :=
  ⟨fun h => by cases h; assumption, .list⟩

theorem isConstant_object_iff {entries : List (StringConstant × Literal)} :
    (Literal.object entries).IsConstant ↔ ∀ entry ∈ entries, entry.2.IsConstant :=
  ⟨fun h => by cases h; assumption, .object⟩

/-! ## Scalars -/

namespace NumberConstant

variable {n : NumberConstant}

section

variable {cs : List Char} (h : ofSource? cs = some n) (hfloat : n.float = false)

include h hfloat

/-- Integers read from source have no sign, and their digits are decimal. -/
theorem value_of_ofSource? : n.negative = false ∧
    ∃ magnitude : Nat, n.digits = toString magnitude ∧ n.value = magnitude ∧
      n.negated.value = -magnitude := by
  unfold ofSource? at h
  simp only at h
  split at h
  · next magnitude suffix _ =>
      cases h
      have hvalue : (toString magnitude).toNat?.getD 0 = magnitude := by
        rw [Nat.toString_eq_repr, Nat.toNat?_repr]
        rfl
      refine ⟨rfl, magnitude, rfl, ?_, ?_⟩
      · simp only [value, hvalue]
        rfl
      · simp only [value, negated, hvalue, if_true]
  · obtain ⟨parts, -, hparts⟩ := Option.bind_eq_some_iff.mp h
    cases hparts
    cases hfloat

/-- Integers read from source are written like integers, but for minus zero. -/
theorem text_of_ofSource? :
    n.text = toString n.value ∧ (n.negated.text = toString n.negated.value ↔ n.value ≠ 0) := by
  obtain ⟨hsign, magnitude, hdigits, hvalue, hnegated⟩ := value_of_ofSource? h hfloat
  constructor
  · rw [NumberConstant.text, hsign, hdigits, hvalue]
    rfl
  · have htext : n.negated.text = "-" ++ toString magnitude := by rw [← hdigits]; rfl
    rw [htext, hnegated, hvalue]
    cases magnitude with
    | zero => exact iff_of_false (by decide) (fun hne => hne rfl)
    | succ magnitude => exact iff_of_true rfl (by omega)

/-- An integer without a suffix is one of 64 bits unless it is too great. -/
theorem isInteger_iff_of_ofSource? (hsuffix : n.suffix = "") :
    n.IsInteger ↔ n.value < twoTo 63 := by
  obtain ⟨-, magnitude, -, hvalue, -⟩ := value_of_ofSource? h hfloat
  refine ⟨fun hn => hn.range.2, fun hlt => ⟨hfloat, hsuffix, ?_, ?_, hlt⟩⟩
  · exact (text_of_ofSource? h hfloat).1
  · rw [hvalue]
    omega

theorem isInteger_negated_iff_of_ofSource? (hsuffix : n.suffix = "") :
    n.negated.IsInteger ↔ n.value ≠ 0 ∧ n.value ≤ twoTo 63 := by
  obtain ⟨-, magnitude, -, hvalue, hnegated⟩ := value_of_ofSource? h hfloat
  have htext := (text_of_ofSource? h hfloat).2
  constructor
  · intro hn
    refine ⟨htext.mp hn.text, ?_⟩
    have hle := hn.range.1
    rw [hnegated] at hle
    rw [hvalue]
    omega
  · rintro ⟨hne, hle⟩
    refine ⟨hfloat, hsuffix, htext.mpr hne, ?_⟩
    rw [hvalue] at hle
    rw [hnegated]
    omega

end

theorem IsInteger.toNat? (h : n.IsInteger) :
    ∃ magnitude : Nat, n.digits.toNat? = some magnitude ∧
      n.value = if n.negative then -(magnitude : Int) else magnitude := by
  cases hdigits : n.digits.toNat? with
  | some magnitude => exact ⟨magnitude, rfl, by rw [value, hdigits, Option.getD_some]⟩
  | none =>
      -- Without digits the value would be zero, whose text is a digit.
      have hzero : n.value = 0 := by
        rw [value, hdigits]
        split <;> rfl
      have htext : (if n.negative then "-" ++ n.digits else n.digits) = "0" := by
        rw [← NumberConstant.text, h.text, hzero]
        rfl
      have hread : "0".toNat? = some 0 := Nat.toNat?_repr 0
      split at htext
      · have hlist := congrArg String.toList htext
        rw [String.toList_append] at hlist
        cases hlist
      · rw [htext, hread] at hdigits
        cases hdigits

theorem IsInteger.integer? (h : n.IsInteger) (source : String) :
    NumberConstant.integer? n.negative { n with suffix := "i64", source } =
      some (.integer n.value : Value ν) := by
  obtain ⟨magnitude, hdigits, hvalue⟩ := h.toNat?
  simp only [NumberConstant.integer?, h.float, hdigits, Option.bind_eq_bind, Option.bind_some,
    ← hvalue, and_self, if_true, if_pos h.range]

theorem IsInteger.evaluate (h : n.IsInteger) :
    Tree.evaluate (numberTrees n) = some (.integer n.value : Value ν) := by
  have htrees : numberTrees n = (if n.negative then [.mark '-' false] else []) ++
      [.constant (.number { n with suffix := "i64", source := n.digits ++ "i64" })] := by
    simp only [numberTrees, h.float, h.suffix]
    rfl
  rw [htrees, ← h.integer? (n.digits ++ "i64")]
  cases n.negative <;> rfl

end NumberConstant

theorem scalarText_value {literal : Literal} (hscalar : literal.isContainer = false)
    (h : literal.IsConstant) : (scalarText literal).value = literal.toJson.scalarText := by
  cases h with
  | string => rfl
  | number hn => exact hn.text
  | @bool value => cases value <;> rfl
  | null => rfl
  | object | list => cases hscalar

theorem evaluate_attrCode {literal : Literal} (hscalar : literal.isContainer = false)
    (h : literal.IsConstant) : ∃ code, attrCode literal = .ok code ∧
      ∃ value : Value ν, Tree.evaluate code.trees = some value ∧
        value.attr? = some (.ofJson literal.toJson) := by
  cases h with
  | string => exact ⟨_, rfl, _, rfl, rfl⟩
  | number hn =>
      refine ⟨_, if_neg ?_, _, hn.evaluate, rfl⟩
      simp [hn.float]
  | @bool value => exact ⟨_, rfl, .bool value, by cases value <;> rfl, rfl⟩
  | null => exact ⟨_, rfl, .attr .null, by rfl, rfl⟩
  | object | list => cases hscalar

end TemplateTree.Literal
