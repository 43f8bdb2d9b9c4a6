import TemplateTree.Proofs.Literal.Constants
import TemplateTree.Proofs.Literal.Equations
import TemplateTree.Proofs.Template.Conversion

/-! # Literals and JSON

Code is made for a literal of constants exactly when its JSON value is converted, and the code
comes to the same template. -/

namespace TemplateTree.Literal

variable {ν : Type}

/-! ## Outcomes that agree -/

/-- Both fail, or both have results that belong together. -/
inductive Agree {α β ε φ : Type} (related : α → β → Prop) : Except ε α → Except φ β → Prop
  | ok {a b} : related a b → Agree related (.ok a) (.ok b)
  | error {first second} : Agree related (.error first) (.error second)

namespace Agree

variable {α β γ δ ε φ : Type} {related : α → β → Prop} {other : γ → δ → Prop}
  {first : Except ε α} {second : Except φ β}

theorem bind {f : α → Except ε γ} {g : β → Except φ δ} (h : Agree related first second)
    (hnext : ∀ a b, related a b → Agree other (f a) (g b)) :
    Agree other (first >>= f) (second >>= g) := by
  cases h with
  | ok hab => exact hnext _ _ hab
  | error => exact .error

theorem map {f : α → γ} {g : β → δ} (h : Agree related first second)
    (hnext : ∀ a b, related a b → other (f a) (g b)) :
    Agree other (do return f (← first)) (do return g (← second)) :=
  h.bind fun a b hab => .ok (hnext a b hab)

theorem map_left {f : α → γ} {other : γ → β → Prop} (h : Agree related first second)
    (hnext : ∀ a b, related a b → other (f a) b) : Agree other (do return f (← first)) second := by
  cases h with
  | ok hab => exact .ok (hnext _ _ hab)
  | error => exact .error

theorem exists_iff (h : Agree related first second) :
    (∃ a, first = .ok a) ↔ ∃ b, second = .ok b := by
  cases h with
  | ok => exact iff_of_true ⟨_, rfl⟩ ⟨_, rfl⟩
  | error => exact iff_of_false nofun nofun

end Agree

/-! ## Code and conversion -/

/-- Code for a template and the template it comes to. -/
def TemplateCode.Yields (code : TemplateCode) (template : Template ν) : Prop :=
  Tree.evaluate code.trees = some (.template template)

def ContentCode.Yields (code : ContentCode) (content : Content ν) : Prop :=
  Tree.evaluate code.trees = some (.content content)

def TemplateCode.AllYield (codes : List TemplateCode) (templates : List (Template ν)) : Prop :=
  Evaluates (TemplateCode.treesAll codes) (templates.map Value.template)

/-- A call with which a bag gets properties and children at its end. -/
def BagCode.Yields (code : BagCode) (properties : List Property) (templates : List (Template ν)) :
    Prop :=
  ∀ bag methods, Value.chain (.bag bag) (Tree.tokens (code.trees ++ methods)) =
    Value.chain (.bag ⟨bag.properties ++ properties, bag.children ++ templates⟩)
      (Tree.tokens methods)

theorem evaluate_stringTrees (text : StringConstant) :
    Tree.evaluate (stringTrees text) = some (.string text.value : Value ν) :=
  rfl

theorem ContentCode.Yields.element {code : ContentCode} {content : Content ν}
    (h : code.Yields content) (selector : StringConstant) :
    (TemplateCode.element selector code).Yields (.element selector.value content) := by
  rw [TemplateCode.Yields, TemplateCode.trees, libraryPath,
    evaluate_call (List.cons_ne_nil _ _) (.cons (evaluate_stringTrees selector) (.cons h .nil))]
  rfl

theorem ContentCode.yields_text (text : StringConstant) :
    (ContentCode.text text).Yields (.text text.value : Content ν) := by
  rw [ContentCode.Yields, ContentCode.trees, libraryPath,
    evaluate_call (List.cons_ne_nil _ _) (.cons (evaluate_stringTrees text) .nil)]
  rfl

theorem ContentCode.yields_items {codes : List TemplateCode} {templates : List (Template ν)}
    (h : TemplateCode.AllYield codes templates) :
    (ContentCode.items codes).Yields (.items templates) := by
  rw [ContentCode.Yields, ContentCode.trees, libraryPath,
    evaluate_call (List.cons_ne_nil _ _) (.cons (evaluate_listTrees h) .nil)]
  rfl

theorem ContentCode.yields_bag {codes : List BagCode} {bag : Bag (Template ν)}
    (h : Value.chain (.bag .empty) (Tree.tokens (BagCode.treesAll codes)) = some (.bag bag)) :
    (ContentCode.bag codes).Yields (.bag bag) := by
  have hbag : Tree.evaluate (call (libraryPath ["Attributes", "new"]) [] ++
      BagCode.treesAll codes) = some (.bag bag) := by
    rw [libraryPath, evaluate_call_append (List.cons_ne_nil _ _) .nil, ← h]
    rfl
  rw [ContentCode.Yields, ContentCode.trees, libraryPath,
    evaluate_call (List.cons_ne_nil _ _) (.cons hbag .nil)]
  rfl

namespace BagCode

variable {key : StringConstant}

theorem yields_attr {code : AttrCode} {value : Value ν} {attr : AttrValue}
    (h : Tree.evaluate code.trees = some value) (hattr : value.attr? = some attr) :
    (BagCode.attr key code).Yields [.attr key.value attr] ([] : List (Template ν)) := by
  intro bag methods
  rw [BagCode.trees, chain_method _ _ (.cons (evaluate_stringTrees key) (.cons h .nil))]
  simp [Value.invoke, Value.text?, hattr, Bag.attr, Bag.property]

theorem yields_html (text : StringConstant) :
    (BagCode.html (.string text)).Yields [.html text.value] ([] : List (Template ν)) := by
  intro bag methods
  rw [BagCode.trees, TextCode.trees, chain_method _ _ (.cons (evaluate_stringTrees text) .nil)]
  simp [Value.invoke, Value.text?, Bag.html, Bag.property]

theorem yields_style (css : StringConstant) :
    (BagCode.style (.string css)).Yields [.style css.value] ([] : List (Template ν)) := by
  intro bag methods
  rw [BagCode.trees, TextCode.trees, chain_method _ _ (.cons (evaluate_stringTrees css) .nil)]
  simp [Value.invoke, Value.text?, Bag.style, Bag.property]

theorem yields_child {code : ContentCode} {content : Content ν} (h : code.Yields content) :
    (BagCode.child key code).Yields [] [.element key.value content] := by
  intro bag methods
  have helement := h.element key
  rw [TemplateCode.Yields, TemplateCode.trees] at helement
  rw [BagCode.trees, chain_method _ _ (.cons helement .nil)]
  simp [Value.invoke, Value.template?, Bag.addChild, Bag.addChildren]

theorem yields_children {codes : List TemplateCode} {templates : List (Template ν)}
    (h : TemplateCode.AllYield codes templates) :
    (BagCode.children codes).Yields [] templates := by
  intro bag methods
  rw [BagCode.trees, chain_method _ _ (.cons (evaluate_listTrees h) .nil)]
  simp [Value.invoke, Bag.addChildren]

end BagCode

/-! ## Entries of a bag -/

theorem holdText_entriesBags {entries : List (StringConstant × Literal)} :
    HoldText (entriesBags entries) ↔ ∀ entry ∈ entries, HoldText (entryBags entry) := by
  induction entries with
  | nil => exact iff_of_true nofun nofun
  | cons entry rest ih =>
      rw [entriesBags, holdText_append, ih, List.forall_mem_cons]

/-- Code for a literal and the conversion of its JSON value. -/
structure Agrees (ν : Type) (literal : Literal) : Prop where
  template : HoldText literal.templateBags →
    Agree TemplateCode.Yields (templateCode literal) (Template.ofJson (ν := ν) literal.toJson)
  content : HoldText literal.contentBags → ∀ selector,
    Agree ContentCode.Yields (contentCode literal) (Content.ofJson (ν := ν) selector literal.toJson)
  items : ∀ items, literal = .list items → HoldText (itemsBags items) →
    Agree TemplateCode.AllYield (items.mapM templateCode)
      ((items.map toJson).mapM (Template.ofJson (ν := ν)))

theorem textCode_of_isConstant (key : String) {literal : Literal}
    (hscalar : literal.isContainer = false) (h : literal.IsConstant) :
    textCode key literal = .ok (.string (scalarText literal)) := by
  cases h with
  | string | number | bool | null => rfl
  | object | list => cases hscalar

theorem contentCode_of_isConstant {literal : Literal}
    (hscalar : literal.isContainer = false) (h : literal.IsConstant) :
    contentCode literal = .ok (.text (scalarText literal)) := by
  cases h with
  | string | number | bool | null => rfl
  | object | list => cases hscalar

theorem entryCode_agrees {key : StringConstant} {value : Literal} (hconstant : value.IsConstant)
    (htext : key.value = htmlKey ∨ key.value = styleKey → value.isContainer = false)
    (hbags : HoldText (entryBags (key, value))) (h : value.Agrees ν) (selector : String) :
    Agree (fun code templates =>
        code.Yields (Property.ofMember? (key.value, value.toJson)).toList templates)
      (entryCode (key, value))
      (Content.childrenOf (ν := ν) selector (key.value, value.toJson)) := by
  rw [entryBags, ← of_toJson] at hbags
  rw [entryCode, ← of_toJson]
  rcases Json.entry_cases key.value value.toJson with hkey | hkey | hkey | hchild | hplain
  · rw [hkey, EntryKind.of_childrenKey] at hbags ⊢
    rw [Property.ofMember?_children]
    cases value with
    | list items =>
        have hitems := h.items items rfl hbags
        rw [← templateCodes_eq_mapM] at hitems
        rw [toJson, Content.childrenOf_children, itemsToJson_eq_map]
        exact hitems.map_left fun _ _ => BagCode.yields_children
    | string | number | bool | null | object | expression =>
        rw [toJson, Content.childrenOf_children_of_ne]
        · exact .error
        · rintro items ⟨⟩
  · have hscalar := htext (.inl hkey)
    rw [hkey, EntryKind.of_htmlKey, textCode_of_isConstant htmlKey hscalar hconstant,
      Property.ofMember?_html, Content.childrenOf_html, ← scalarText_value hscalar hconstant]
    exact .ok (BagCode.yields_html _)
  · have hscalar := htext (.inr hkey)
    rw [hkey, EntryKind.of_styleKey, textCode_of_isConstant styleKey hscalar hconstant,
      Property.ofMember?_style, Content.childrenOf_style, ← scalarText_value hscalar hconstant]
    exact .ok (BagCode.yields_style _)
  · rw [EntryKind.of_of_isChild hchild] at hbags ⊢
    rw [Property.ofMember?_of_isChild hchild, Content.childrenOf_of_isChild hchild]
    exact (h.content hbags key.value).map fun _ _ => BagCode.yields_child
  · obtain ⟨code, hcode, result, hresult, hattr⟩ :=
      evaluate_attrCode (ν := ν) ((isContainer_toJson value).symm.trans hplain.2.1) hconstant
    rw [EntryKind.of_of_isPlain hplain, hcode, Property.ofMember?_of_isPlain hplain,
      Content.childrenOf_of_isPlain hplain]
    exact .ok (BagCode.yields_attr hresult hattr)

theorem bagCode_agrees {entries : List (StringConstant × Literal)}
    (hconstant : ∀ entry ∈ entries, entry.2.IsConstant)
    (htext : ∀ entry ∈ entries, entry.1.value = htmlKey ∨ entry.1.value = styleKey →
      entry.2.isContainer = false)
    (hbags : HoldText (entriesBags entries)) (h : ∀ entry ∈ entries, entry.2.Agrees ν)
    (selector : String) (bag : Bag (Template ν)) :
    Agree (fun codes result =>
        Value.chain (.bag bag) (Tree.tokens (BagCode.treesAll codes)) = some (.bag result))
      (bagCode entries) (Content.bagOfJson selector bag (entriesToJson entries)) := by
  -- Calls and entries go through in the same order, each from the bag that those before it left.
  induction entries generalizing bag with
  | nil =>
      rw [entriesToJson, Content.bagOfJson]
      exact .ok rfl
  | cons entry rest ih =>
      rw [holdText_entriesBags, List.forall_mem_cons, ← holdText_entriesBags] at hbags
      rw [List.forall_mem_cons] at hconstant htext h
      rw [bagCode_cons, entriesToJson, Content.bagOfJson_cons]
      refine (entryCode_agrees hconstant.1 htext.1 hbags.1 h.1 selector).bind ?_
      intro code templates hcode
      refine (ih hconstant.2 htext.2 hbags.2 h.2 _).map_left fun codes result hcodes => ?_
      rw [BagCode.treesAll, hcode]
      exact hcodes

theorem templateCodes_agree {items : List Literal}
    (h : ∀ item ∈ items, Agree TemplateCode.Yields (templateCode item)
      (Template.ofJson (ν := ν) item.toJson)) :
    Agree TemplateCode.AllYield (items.mapM templateCode)
      ((items.map toJson).mapM (Template.ofJson (ν := ν))) := by
  induction items with
  | nil => exact .ok .nil
  | cons item rest ih =>
      rw [List.forall_mem_cons] at h
      rw [List.map_cons, List.mapM_cons, List.mapM_cons]
      refine h.1.bind fun code template hcode => ?_
      exact (ih h.2).map fun codes templates hcodes => .cons hcode hcodes

/-! ## Literals -/

theorem templateCode_scalar_agrees {literal : Literal} (hscalar : literal.isContainer = false)
    (h : literal.IsConstant) : Agree TemplateCode.Yields (templateCode literal)
      (Template.ofJson (ν := ν) literal.toJson) := by
  cases h with
  | string | number | bool | null => exact .error
  | object | list => cases hscalar

theorem contentCode_scalar_agrees {literal : Literal} (hscalar : literal.isContainer = false)
    (h : literal.IsConstant) (selector : String) : Agree ContentCode.Yields (contentCode literal)
      (Content.ofJson (ν := ν) selector literal.toJson) := by
  rw [contentCode_of_isConstant hscalar h,
    Content.ofJson_scalar ((isContainer_toJson literal).trans hscalar), ← scalarText_value hscalar h]
  exact .ok (ContentCode.yields_text _)

/-- Code for a literal made of constants agrees with conversion, by induction on the literal. -/
theorem agrees {literal : Literal} (h : literal.IsConstant) : literal.Agrees ν := by
  induction literal using inductionOn with
  | scalar literal hscalar =>
      refine ⟨fun _ => templateCode_scalar_agrees hscalar h,
        fun _ => contentCode_scalar_agrees hscalar h, ?_⟩
      rintro items rfl
      cases hscalar
  | list items ih =>
      have hconstant := isConstant_list_iff.mp h
      have hitems : HoldText (itemsBags items) → Agree TemplateCode.AllYield
          (items.mapM templateCode) ((items.map toJson).mapM (Template.ofJson (ν := ν))) :=
        fun hbags => templateCodes_agree fun item hi =>
          (ih item hi (hconstant item hi)).template (holdText_itemsBags.mp hbags item hi)
      refine ⟨fun _ => .error, fun hbags selector => ?_, ?_⟩
      · rw [contentCode_list, templateCodes_eq_mapM, toJson, itemsToJson_eq_map, Content.ofJson_array]
        exact (hitems hbags).map fun _ _ => ContentCode.yields_items
      · rintro _ ⟨⟩
        exact hitems
  | object entries ih =>
      have hconstant := isConstant_object_iff.mp h
      have hagrees := fun entry he => ih entry he (hconstant entry he)
      refine ⟨fun hbags => ?_, fun hbags selector => ?_, nofun⟩
      · rcases entries with _ | ⟨⟨selector, value⟩, _ | ⟨second, rest⟩⟩
        · exact .error
        · rw [templateCode_single, toJson, entriesToJson, entriesToJson, Template.ofJson_single]
          exact ((hagrees _ List.mem_cons_self).content hbags selector.value).map
            fun _ _ hyields => hyields.element selector
        · exact .error
      · obtain ⟨htext, hinner⟩ := List.forall_mem_cons.mp hbags
        rw [contentCode_object, toJson, Content.ofJson]
        exact (bagCode_agrees hconstant htext hinner hagrees selector .empty).map
          fun _ _ => ContentCode.yields_bag

/-- Code is made for a literal of constants exactly when its JSON value is converted, and the
code comes to the template that the value is converted to. -/
theorem templateCode_agrees {literal : Literal} (hconstant : literal.IsConstant)
    (htext : ∀ bag ∈ literal.templateBags, ∀ entry ∈ bag,
      entry.1.value = htmlKey ∨ entry.1.value = styleKey → entry.2.isContainer = false) :
    ((∃ code, templateCode literal = .ok code) ↔
        ∃ template : Template ν, Template.ofJson literal.toJson = .ok template) ∧
      ∀ code (template : Template ν), templateCode literal = .ok code →
        Template.ofJson literal.toJson = .ok template →
          Tree.evaluate code.trees = some (.template template) := by
  have h := (agrees (ν := ν) hconstant).template htext
  refine ⟨h.exists_iff, fun code template hcode htemplate => ?_⟩
  rw [hcode, htemplate] at h
  cases h with
  | ok hyields => exact hyields

def minusTwo : NumberConstant :=
  { negative := true, float := false, digits := "2", suffix := "", source := "2" }

/-- A literal with a negative number and with children in both forms. -/
def chapter : Literal :=
  .object [(.ofText "div.page#main", .object [
    (.ofText "style", .string (.ofText "position:relative")),
    (.ofText "tabindex", .number minusTwo),
    (.ofText "h1.title", .string (.ofText "Hello")),
    (.ofText "hidden", .bool true),
    (.ofText "children", .list [.object [(.ofText "p", .null)]])])]

def chapterTemplate : Template String :=
  .element "div.page#main" (.bag ⟨[.style "position:relative",
    .attr "tabindex" (.number (.integer (-2))), .attr "hidden" (.bool true)],
    [.element "h1.title" (.text "Hello"), .element "p" (.text "")]⟩)

theorem chapter_agrees :
    chapter.IsConstant ∧ ∃ code, templateCode chapter = .ok code ∧
      Tree.evaluate code.trees = some (.template chapterTemplate) := by
  have hvalue : minusTwo.value = -2 := by
    have hread : "2".toNat? = some 2 := Nat.toNat?_repr 2
    rw [NumberConstant.value, minusTwo, hread]
    rfl
  have hnumber : minusTwo.IsInteger := by
    refine ⟨rfl, rfl, ?_, ?_⟩
    · rw [hvalue]
      rfl
    · rw [hvalue]
      decide
  have hconstant : chapter.IsConstant := by
    refine .object (List.forall_mem_singleton.mpr (.object ?_))
    simp only [List.forall_mem_cons, List.not_mem_nil, false_imp_iff, implies_true, and_true]
    refine ⟨.string, .number hnumber, .string, .bool, .list ?_⟩
    exact List.forall_mem_singleton.mpr (.object (List.forall_mem_singleton.mpr .null))
  have htext : ∀ bag ∈ chapter.templateBags, ∀ entry ∈ bag,
      entry.1.value = htmlKey ∨ entry.1.value = styleKey → entry.2.isContainer = false := by
    refine List.forall_mem_cons.mpr ⟨?_, List.forall_mem_nil _⟩
    simp only [List.forall_mem_cons, List.not_mem_nil, false_imp_iff, implies_true, and_true]
    exact ⟨fun _ => rfl, fun _ => rfl, fun _ => rfl, fun _ => rfl, by decide⟩
  have hjson : chapter.toJson = .object [("div.page#main", .object [
      ("style", .string "position:relative"), ("tabindex", .number (.integer (-2))),
      ("h1.title", .string "Hello"), ("hidden", .bool true),
      ("children", .array [.object [("p", .null)]])])] := by
    simp only [chapter, toJson, entriesToJson, itemsToJson, hvalue, StringConstant.ofText]
  have htemplate : Template.ofJson chapter.toJson = .ok chapterTemplate := by
    rw [hjson]
    rfl
  obtain ⟨hmade, hyields⟩ := templateCode_agrees (ν := String) hconstant htext
  obtain ⟨code, hcode⟩ := hmade.mpr ⟨_, htemplate⟩
  exact ⟨hconstant, code, hcode, hyields code _ hcode htemplate⟩

end TemplateTree.Literal
