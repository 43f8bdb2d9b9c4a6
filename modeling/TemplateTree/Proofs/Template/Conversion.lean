import Mathlib.Data.List.Basic
import TemplateTree.Template.OfJson

/-! # Conversion from JSON by equations

Conversion goes through lists item by item. In a bag every entry is a property or holds
children; the properties and the children are read independently of each other. -/

namespace TemplateTree

variable {ν : Type}

/-- Induction over JSON values: what holds of all parts of a container holds of it. -/
@[elab_as_elim]
theorem Json.inductionOn {motive : Json → Prop}
    (scalar : ∀ value : Json, value.isContainer = false → motive value)
    (array : ∀ items, (∀ item ∈ items, motive item) → motive (.array items))
    (object : ∀ members : List (String × Json), (∀ entry ∈ members, motive entry.2) →
      motive (.object members)) :
    ∀ value : Json, motive value
  | .null => scalar _ rfl
  | .bool _ => scalar _ rfl
  | .number _ => scalar _ rfl
  | .string _ => scalar _ rfl
  | .array items => array items fun item _ => inductionOn scalar array object item
  | .object members => object members fun (key, value) h =>
      have : sizeOf value < sizeOf members :=
        Nat.lt_trans (by rw [Prod.mk.sizeOf_spec]; omega) (List.sizeOf_lt_of_mem h)
      inductionOn scalar array object value

/-! ## Entries of a bag -/

/-- The keys with a meaning of their own in a bag. -/
def reservedKeys : List String :=
  [childrenKey, htmlKey, styleKey]

/-- An entry of a bag that is a child with its key as selector. -/
def Json.IsChild (key : String) (value : Json) : Prop :=
  key ∉ reservedKeys ∧ (value.isContainer = true ∨ '.' ∈ key.toList ∨ '#' ∈ key.toList)

/-- An entry of a bag that is a plain attribute. -/
def Json.IsPlain (key : String) (value : Json) : Prop :=
  key ∉ reservedKeys ∧ value.isContainer = false ∧ '.' ∉ key.toList ∧ '#' ∉ key.toList

theorem Json.entry_cases (key : String) (value : Json) :
    key = childrenKey ∨ key = htmlKey ∨ key = styleKey ∨ IsChild key value ∨ IsPlain key value := by
  unfold IsChild IsPlain reservedKeys
  grind

theorem Selector.hasMarker_iff {text : String} :
    hasMarker text = true ↔ '.' ∈ text.toList ∨ '#' ∈ text.toList := by
  simp only [hasMarker, List.any_eq_true, isMarker, Bool.or_eq_true, beq_iff_eq]
  grind

namespace EntryKind

variable {key : String} {value : Json}

theorem of_childrenKey : EntryKind.of childrenKey value = .children := by
  rw [EntryKind.of, ofKey, if_pos rfl]

theorem of_htmlKey : EntryKind.of htmlKey value = .html := by
  rw [EntryKind.of, ofKey, if_neg (by decide), if_pos rfl]

theorem of_styleKey : EntryKind.of styleKey value = .style := by
  rw [EntryKind.of, ofKey, if_neg (by decide), if_neg (by decide), if_pos rfl]

theorem of_of_isChild (h : Json.IsChild key value) : EntryKind.of key value = .child := by
  obtain ⟨hkey, hshape⟩ := h
  simp only [reservedKeys, List.mem_cons, List.not_mem_nil, or_false, not_or] at hkey
  rw [EntryKind.of, ofKey, if_neg hkey.1, if_neg hkey.2.1, if_neg hkey.2.2, if_pos]
  rwa [Bool.or_eq_true, Selector.hasMarker_iff]

theorem of_of_isPlain (h : Json.IsPlain key value) : EntryKind.of key value = .attr := by
  obtain ⟨hkey, hscalar, hshape⟩ := h
  simp only [reservedKeys, List.mem_cons, List.not_mem_nil, or_false, not_or] at hkey
  rw [EntryKind.of, ofKey, if_neg hkey.1, if_neg hkey.2.1, if_neg hkey.2.2, if_neg]
  rw [Bool.or_eq_true, Selector.hasMarker_iff, hscalar]
  simpa using hshape

end EntryKind

/-! ## Lists of outcomes -/

section

variable {α β γ φ : Type} {f : α → Except φ (List β)}

theorem exists_of_bind_eq_ok {outcome : Except φ α} {next : α → Except φ β} {b : β}
    (h : outcome >>= next = .ok b) : ∃ a, outcome = .ok a ∧ next a = .ok b := by
  cases outcome with
  | error fault => cases h
  | ok a => exact ⟨a, rfl, h⟩

/-- The lists for all entries, one behind the other. -/
def collect (f : α → Except φ (List β)) : List α → Except φ (List β)
  | [] => .ok []
  | x :: xs => do return (← f x) ++ (← collect f xs)

theorem collect_append (xs ys : List α) :
    collect f (xs ++ ys) = (do return (← collect f xs) ++ (← collect f ys)) := by
  induction xs with
  | nil => cases h : collect f ys <;> rw [collect, List.nil_append, h] <;> rfl
  | cons x xs ih =>
      rw [List.cons_append, collect, collect, ih]
      cases f x with
      | error => rfl
      | ok first =>
          cases collect f xs with
          | error => rfl
          | ok second =>
              cases collect f ys with
              | error => rfl
              | ok third => exact congrArg Except.ok (List.append_assoc first second third).symm

/-- Entries with an empty list can be left out. -/
theorem collect_filter {p : α → Bool} {xs : List α}
    (h : ∀ x ∈ xs, p x = false → f x = .ok []) : collect f (xs.filter p) = collect f xs := by
  induction xs with
  | nil => rfl
  | cons x xs ih =>
      rw [List.forall_mem_cons] at h
      cases hp : p x with
      | false =>
          rw [List.filter_cons_of_neg (by simp [hp]), ih h.2, collect, h.1 hp]
          cases collect f xs <;> rfl
      | true => rw [List.filter_cons_of_pos hp, collect, collect, ih h.2]

theorem collect_eq_nil {xs : List α} (h : ∀ x ∈ xs, f x = .ok []) : collect f xs = .ok [] := by
  induction xs with
  | nil => rfl
  | cons x xs ih =>
      rw [List.forall_mem_cons] at h
      rw [collect, h.1, ih h.2]
      rfl

theorem exists_of_mem_collect {xs : List α} {ys : List β} (h : collect f xs = .ok ys) {y : β}
    (hy : y ∈ ys) : ∃ x ∈ xs, ∃ zs, f x = .ok zs ∧ y ∈ zs := by
  induction xs generalizing ys with
  | nil =>
      cases h
      cases hy
  | cons x xs ih =>
      obtain ⟨zs, hfirst, h⟩ := exists_of_bind_eq_ok h
      obtain ⟨rest, hrest, h⟩ := exists_of_bind_eq_ok h
      cases h
      rcases List.mem_append.mp hy with hz | hr
      · exact ⟨x, List.mem_cons_self, zs, hfirst, hz⟩
      · obtain ⟨w, hw, hrow⟩ := ih hrest hr
        exact ⟨w, List.mem_cons_of_mem x hw, hrow⟩

theorem exists_of_mem_mapM {step : α → Except φ β} {xs : List α} {ys : List β}
    (h : xs.mapM step = .ok ys) {y : β} (hy : y ∈ ys) : ∃ x ∈ xs, step x = .ok y := by
  induction xs generalizing ys with
  | nil =>
      cases h
      cases hy
  | cons x xs ih =>
      rw [List.mapM_cons] at h
      obtain ⟨first, hfirst, h⟩ := exists_of_bind_eq_ok h
      obtain ⟨rest, hrest, h⟩ := exists_of_bind_eq_ok h
      cases h
      rcases List.mem_cons.mp hy with rfl | hr
      · exact ⟨x, List.mem_cons_self, hfirst⟩
      · obtain ⟨w, hw, hstep⟩ := ih hrest hr
        exact ⟨w, List.mem_cons_of_mem x hw, hstep⟩

theorem collect_eq_mapM {g : α → List γ} {step : γ → Except φ β} {xs : List α}
    (h : ∀ x ∈ xs, f x = (g x).mapM step) : collect f xs = (xs.flatMap g).mapM step := by
  induction xs with
  | nil => rfl
  | cons x xs ih =>
      rw [List.forall_mem_cons] at h
      rw [collect, List.flatMap_cons, List.mapM_append, h.1, ih h.2]

end

/-! ## Properties and children -/

/-- The property that an entry of a bag stands for. -/
def Property.ofMember? (entry : String × Json) : Option Property :=
  match EntryKind.of entry.1 entry.2 with
  | .html => some (.html entry.2.scalarText)
  | .style => some (.style entry.2.scalarText)
  | .attr => some (.attr entry.1 (.ofJson entry.2))
  | .children | .child => none

/-- The children that an entry of a bag holds; a fault names the element with the bag. -/
def Content.childrenOf (selector : String) (entry : String × Json) :
    Except TemplateFault (List (Template ν)) :=
  match EntryKind.of entry.1 entry.2 with
  | .children =>
    match entry.2 with
    | .array list => list.mapM Template.ofJson
    | other => .error (.childrenNotAList selector other.kind)
  | .child => do return [.element entry.1 (← ofJson entry.1 entry.2)]
  | .html | .style | .attr => return []

namespace Property

variable {key : String} {value : Json}

theorem ofMember?_html : ofMember? (htmlKey, value) = some (.html value.scalarText) := by
  rw [ofMember?, EntryKind.of_htmlKey]

theorem ofMember?_style : ofMember? (styleKey, value) = some (.style value.scalarText) := by
  rw [ofMember?, EntryKind.of_styleKey]

theorem ofMember?_of_isPlain (h : Json.IsPlain key value) :
    ofMember? (key, value) = some (.attr key (.ofJson value)) := by
  rw [ofMember?, EntryKind.of_of_isPlain h]

theorem ofMember?_children : ofMember? (childrenKey, value) = none := by
  rw [ofMember?, EntryKind.of_childrenKey]

theorem ofMember?_of_isChild (h : Json.IsChild key value) : ofMember? (key, value) = none := by
  rw [ofMember?, EntryKind.of_of_isChild h]

end Property

theorem Template.listOfJson_eq_mapM (items : List Json) :
    (listOfJson items : Except TemplateFault (List (Template ν))) = items.mapM ofJson := by
  induction items with
  | nil => rw [listOfJson]; rfl
  | cons item items ih => rw [listOfJson, List.mapM_cons, ih]

namespace Content

theorem bagOfJson_cons (selector : String) (bag : Bag (Template ν)) (entry : String × Json)
    (members : List (String × Json)) :
    bagOfJson selector bag (entry :: members) = (do
      let templates ← childrenOf selector entry
      bagOfJson selector ⟨bag.properties ++ (Property.ofMember? entry).toList,
        bag.children ++ templates⟩ members) := by
  obtain ⟨key, value⟩ := entry
  rw [childrenOf, Property.ofMember?]
  conv_lhs => unfold bagOfJson
  cases EntryKind.of key value with
  | children =>
      cases value <;> simp [Template.listOfJson_eq_mapM, Bag.addChildren] <;> rfl
  | child => simp [Bag.addChild, Bag.addChildren]
  | html | style | attr => simp [Bag.html, Bag.style, Bag.attr, Bag.property]

theorem bagOfJson_eq (selector : String) (bag : Bag (Template ν))
    (members : List (String × Json)) :
    bagOfJson selector bag members = (do
      return ⟨bag.properties ++ members.filterMap Property.ofMember?,
        bag.children ++ (← collect (childrenOf selector) members)⟩) := by
  induction members generalizing bag with
  | nil =>
      rw [bagOfJson, collect]
      show Except.ok bag = .ok ⟨bag.properties ++ [], bag.children ++ []⟩
      rw [List.append_nil, List.append_nil]
  | cons entry members ih =>
      rw [bagOfJson_cons, List.filterMap_cons, collect]
      cases (childrenOf selector entry : Except TemplateFault (List (Template ν))) with
      | error fault => rfl
      | ok templates =>
          refine (ih _).trans ?_
          cases (collect (childrenOf selector) members :
            Except TemplateFault (List (Template ν))) with
          | error fault => rfl
          | ok rest =>
              refine congrArg Except.ok ?_
              cases Property.ofMember? entry <;> simp

variable {selector key : String} {value : Json} {members : List (String × Json)}

theorem childrenOf_children {list : List Json} :
    childrenOf (ν := ν) selector (childrenKey, .array list) = list.mapM Template.ofJson := by
  rw [childrenOf, EntryKind.of_childrenKey]

theorem childrenOf_children_of_ne (h : ∀ list, value ≠ .array list) :
    childrenOf (ν := ν) selector (childrenKey, value) =
      .error (.childrenNotAList selector value.kind) := by
  rw [childrenOf, EntryKind.of_childrenKey]
  cases value with
  | array list => exact absurd rfl (h list)
  | null | bool | number | string | object => rfl

theorem childrenOf_of_isChild (h : Json.IsChild key value) :
    childrenOf (ν := ν) selector (key, value) = (do return [.element key (← ofJson key value)]) := by
  rw [childrenOf, EntryKind.of_of_isChild h]

theorem childrenOf_html : childrenOf (ν := ν) selector (htmlKey, value) = .ok [] := by
  rw [childrenOf, EntryKind.of_htmlKey]
  rfl

theorem childrenOf_style : childrenOf (ν := ν) selector (styleKey, value) = .ok [] := by
  rw [childrenOf, EntryKind.of_styleKey]
  rfl

theorem childrenOf_of_isPlain (h : Json.IsPlain key value) :
    childrenOf (ν := ν) selector (key, value) = .ok [] := by
  rw [childrenOf, EntryKind.of_of_isPlain h]
  rfl

theorem ofJson_scalar (h : value.isContainer = false) :
    ofJson (ν := ν) selector value = .ok (.text value.scalarText) := by
  cases value with
  | array | object => cases h
  | null | bool | number | string => rfl

theorem ofJson_array {list : List Json} :
    ofJson (ν := ν) selector (.array list) = (do return .items (← list.mapM Template.ofJson)) := by
  rw [ofJson, Template.listOfJson_eq_mapM]

theorem ofJson_object :
    ofJson (ν := ν) selector (.object members) = (do
      return .bag ⟨members.filterMap Property.ofMember?,
        ← collect (childrenOf selector) members⟩) := by
  rw [ofJson, bagOfJson_eq]
  cases (collect (childrenOf selector) members :
    Except TemplateFault (List (Template ν))) <;> rfl

/-- An entry of a bag holds no children, or a list of them, or is a child itself. -/
theorem childrenOf_eq_ok {entry : String × Json} {templates : List (Template ν)}
    (hok : childrenOf selector entry = .ok templates) :
    templates = [] ∨ ofJson selector entry.2 = .ok (.items templates) ∨
      ∃ content, ofJson entry.1 entry.2 = .ok content ∧
        templates = [.element entry.1 content] := by
  obtain ⟨key, value⟩ := entry
  rcases Json.entry_cases key value with rfl | rfl | rfl | hchild | hplain
  · by_cases hlist : ∃ list, value = .array list
    · obtain ⟨list, rfl⟩ := hlist
      rw [childrenOf_children] at hok
      refine .inr (.inl ?_)
      rw [ofJson_array, hok]
      rfl
    · rw [childrenOf_children_of_ne fun list he => hlist ⟨list, he⟩] at hok
      cases hok
  · rw [childrenOf_html] at hok
    exact .inl (Except.ok.inj hok).symm
  · rw [childrenOf_style] at hok
    exact .inl (Except.ok.inj hok).symm
  · rw [childrenOf_of_isChild hchild] at hok
    obtain ⟨content, hcontent, hok⟩ := exists_of_bind_eq_ok hok
    exact .inr (.inr ⟨content, hcontent, (Except.ok.inj hok).symm⟩)
  · rw [childrenOf_of_isPlain hplain] at hok
    exact .inl (Except.ok.inj hok).symm

end Content

namespace Template

variable {selector : String} {value : Json} {members : List (String × Json)}

theorem ofJson_single :
    ofJson (ν := ν) (.object [(selector, value)]) = (do
      return .element selector (← Content.ofJson selector value)) := by
  rw [ofJson]

theorem ofJson_of_ne (h : ∀ members, value ≠ .object members) :
    ofJson (ν := ν) value = .error (.notAnObject value.kind) := by
  cases value with
  | object members => exact absurd rfl (h members)
  | null | bool | number | string | array => rfl

/-- Induction over values that are converted, for templates and for contents at once. -/
theorem ofJson_induction {onTemplate : Json → Template ν → Prop}
    {onContent : Json → String → Content ν → Prop}
    (element : ∀ selector value content, Content.ofJson selector value = .ok content →
      onContent value selector content →
        onTemplate (.object [(selector, value)]) (.element selector content))
    (text : ∀ selector value, value.isContainer = false →
      onContent value selector (.text value.scalarText))
    (items : ∀ selector items templates, items.mapM ofJson = .ok templates →
      (∀ item ∈ items, ∀ template, ofJson item = .ok template → onTemplate item template) →
        onContent (.array items) selector (.items templates))
    (bag : ∀ selector members templates,
      collect (Content.childrenOf selector) members = .ok templates →
      (∀ entry ∈ members, ∀ selector content, Content.ofJson selector entry.2 = .ok content →
        onContent entry.2 selector content) →
          onContent (.object members) selector
            (.bag ⟨members.filterMap Property.ofMember?, templates⟩))
    (value : Json) :
    (∀ template, ofJson value = .ok template → onTemplate value template) ∧
      ∀ selector content, Content.ofJson selector value = .ok content →
        onContent value selector content := by
  induction value using Json.inductionOn with
  | scalar value hs =>
      refine ⟨fun template hok => ?_, fun selector content hok => ?_⟩
      · rw [ofJson_of_ne (by rintro members rfl; cases hs)] at hok
        cases hok
      · rw [Content.ofJson_scalar hs] at hok
        cases hok
        exact text selector value hs
  | array list ih =>
      refine ⟨fun template hok => ?_, fun selector content hok => ?_⟩
      · rw [ofJson_of_ne (by rintro members ⟨⟩)] at hok
        cases hok
      · rw [Content.ofJson_array] at hok
        obtain ⟨templates, hlist, hok⟩ := exists_of_bind_eq_ok hok
        cases hok
        exact items selector list templates hlist fun item hi => (ih item hi).1
  | object members ih =>
      refine ⟨fun template hok => ?_, fun selector content hok => ?_⟩
      · match members with
        | [] => cases hok
        | [(selector, value)] =>
            rw [ofJson_single] at hok
            obtain ⟨content, hcontent, hok⟩ := exists_of_bind_eq_ok hok
            cases hok
            exact element selector value content hcontent
              ((ih (selector, value) (List.mem_singleton_self _)).2 selector content hcontent)
        | _ :: _ :: _ => cases hok
      · rw [Content.ofJson_object] at hok
        obtain ⟨templates, hmembers, hok⟩ := exists_of_bind_eq_ok hok
        cases hok
        exact bag selector members templates hmembers fun entry he => (ih entry he).2

end Template

end TemplateTree
