import TemplateTree.Proofs.Template.Conversion
import TemplateTree.Proofs.Template.FirstViolation

/-! # The grammar of JSON templates

Which JSON values are templates, and where a value breaks the grammar. A value is converted
exactly when it is a template, and else its first violation in document order is reported. -/

namespace TemplateTree

namespace Json

/-! ## Templates -/

mutual

/-- A template is an object with one entry, whose value is a content. -/
inductive IsTemplate : Json → Prop
  | element {selector value} : IsContent value → IsTemplate (.object [(selector, value)])

/-- A content is a scalar, a list of templates, or a bag of entries. -/
inductive IsContent : Json → Prop
  | scalar {value} : value.isContainer = false → IsContent value
  | list {items} : (∀ item ∈ items, IsTemplate item) → IsContent (.array items)
  | bag {members} : (∀ entry ∈ members, IsEntry entry.1 entry.2) → IsContent (.object members)

/-- What may stand in a bag. -/
inductive IsEntry : String → Json → Prop
  | children {items} : (∀ item ∈ items, IsTemplate item) → IsEntry childrenKey (.array items)
  | html {value} : IsEntry htmlKey value
  | style {value} : IsEntry styleKey value
  | child {key value} : IsChild key value → IsContent value → IsEntry key value
  | plain {key value} : IsPlain key value → IsEntry key value

end

/-! ## Violations -/

mutual

/-- A violation of the rule for templates. -/
inductive TemplateViolation : Json → List Nat → TemplateFault → Prop
  | notAnObject {value} : (∀ members, value ≠ .object members) →
      TemplateViolation value [] (.notAnObject value.kind)
  | empty : TemplateViolation (.object []) [] .emptyTemplate
  | multipleKeys {members} : 1 < members.length →
      TemplateViolation (.object members) [] (.multipleKeys (members.map Prod.fst))
  | content {members i selector value place fault} : members[i]? = some (selector, value) →
      ContentViolation selector value place fault →
      TemplateViolation (.object members) (i :: place) fault

/-- A violation in the content of the element with a selector. -/
inductive ContentViolation : String → Json → List Nat → TemplateFault → Prop
  | item {selector items i item place fault} : items[i]? = some item →
      TemplateViolation item place fault → ContentViolation selector (.array items) (i :: place) fault
  | entry {selector members i key value place fault} : members[i]? = some (key, value) →
      EntryViolation selector key value place fault →
      ContentViolation selector (.object members) (i :: place) fault

/-- A violation in an entry of the bag of the element with a selector. -/
inductive EntryViolation : String → String → Json → List Nat → TemplateFault → Prop
  | childrenNotAList {selector value} : (∀ items, value ≠ .array items) →
      EntryViolation selector childrenKey value [] (.childrenNotAList selector value.kind)
  | item {selector items i item place fault} : items[i]? = some item →
      TemplateViolation item place fault →
      EntryViolation selector childrenKey (.array items) (i :: place) fault
  | child {selector key value place fault} : IsChild key value →
      ContentViolation key value place fault → EntryViolation selector key value place fault

end

section

variable {selector key : String} {value : Json} {items : List Json}
  {members : List (String × Json)} {place : List Nat} {fault : TemplateFault}

theorem entryViolation_of_isChild_iff (h : IsChild key value) :
    EntryViolation selector key value place fault ↔ ContentViolation key value place fault := by
  constructor
  · rintro (_ | _ | ⟨-, hv⟩)
    · exact absurd List.mem_cons_self h.1
    · exact absurd List.mem_cons_self h.1
    · exact hv
  · exact .child h

end

/-! ## Templates are what has no violation -/

section

variable {selector key : String} {value : Json} {items : List Json}
  {members : List (String × Json)}

end

/-! ## No place has two violations -/

theorem EntryViolation.unique {selector key : String} {value : Json} {place : List Nat}
    {fault other : TemplateFault}
    (hcontent : ∀ selector place fault other, ContentViolation selector value place fault →
      ContentViolation selector value place other → fault = other)
    (h : EntryViolation selector key value place fault)
    (ho : EntryViolation selector key value place other) : fault = other := by
  cases h with
  | childrenNotAList hne =>
      cases ho with
      | childrenNotAList => rfl
      | child hchild => exact absurd List.mem_cons_self hchild.1
  | item hi hv =>
      cases ho with
      | item hj hw => exact hcontent selector _ _ _ (.item hi hv) (.item hj hw)
      | child hchild => exact absurd List.mem_cons_self hchild.1
  | child hchild hv =>
      exact hcontent key _ _ _ hv ((entryViolation_of_isChild_iff hchild).mp ho)

end Json

/-! ## Conversion reports the first violation -/

theorem ReportsFirst.collect {α β φ : Type} {violates : α → List Nat → φ → Prop}
    {f : α → Except φ (List β)} {row : List α}
    (h : ∀ entry ∈ row, ReportsFirst (violates entry) (f entry)) :
    ReportsFirst (InRow violates row) (TemplateTree.collect f row) := by
  induction row with
  | nil => exact forall_not_inRow_iff.mpr (List.forall_mem_nil _)
  | cons entry row ih =>
      rw [List.forall_mem_cons] at h
      rw [TemplateTree.collect]
      exact h.1.bind fun first => map_iff.mpr (ih h.2)

namespace Content

variable {ν : Type}

end Content

namespace Template

variable {ν : Type}

open Json

end Template

end TemplateTree
