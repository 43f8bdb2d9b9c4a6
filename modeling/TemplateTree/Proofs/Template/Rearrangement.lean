import TemplateTree.Proofs.Template.Conversion

/-! # Rearranging bags in JSON

In a bag only the order among the entries for properties and the order among the children
count. A child is an entry of its own or an item of the list under `children`. Bags that come
to the same content can take the place of each other anywhere in a template. -/

namespace TemplateTree

variable {ν : Type}

namespace Json

/-- Whether an entry of a bag holds children. -/
def holdsChildren (entry : String × Json) : Bool :=
  match EntryKind.of entry.1 entry.2 with
  | .children | .child => true
  | .html | .style | .attr => false

/-- An entry of a bag that is a child or a list of children. -/
def IsNest (entry : String × Json) : Prop :=
  IsChild entry.1 entry.2 ∨ ∃ list, entry = (childrenKey, .array list)

/-- The items that stand for the children in an entry. -/
def childItems (entry : String × Json) : List Json :=
  match entry.2 with
  | .array list => if entry.1 = childrenKey then list else [.object [entry]]
  | _ => [.object [entry]]

theorem childItems_children {list : List Json} :
    childItems (childrenKey, .array list) = list := by
  simp only [childItems, if_pos]

theorem childItems_of_ne {key : String} (h : key ≠ childrenKey) (value : Json) :
    childItems (key, value) = [.object [(key, value)]] := by
  cases value with
  | array list => exact if_neg h
  | null | bool | number | string | object => rfl

/-- A content with a hole for a content. -/
inductive Place where
  | here
  | item (before : List Json) (selector : String) (inner : Place) (after : List Json)
  | entry (before : List (String × Json)) (key : String) (h : key ≠ htmlKey ∧ key ≠ styleKey)
    (inner : Place) (after : List (String × Json))

/-- The content with this value in its hole. -/
def Place.fill (value : Json) : Place → Json
  | here => value
  | item before selector inner after =>
    .array (before ++ .object [(selector, inner.fill value)] :: after)
  | entry before key _ inner after => .object (before ++ (key, inner.fill value) :: after)

/-- Two arrays or two objects. -/
inductive SameShape : Json → Json → Prop
  | arrays {list others} : SameShape (.array list) (.array others)
  | objects {members others} : SameShape (.object members) (.object others)

theorem SameShape.left {value other : Json} (h : SameShape value other) :
    value.isContainer = true := by
  cases h <;> rfl

theorem SameShape.right {value other : Json} (h : SameShape value other) :
    other.isContainer = true := by
  cases h <;> rfl

theorem Place.sameShape_fill (place : Place) (members others : List (String × Json)) :
    SameShape (place.fill (.object members)) (place.fill (.object others)) := by
  cases place with
  | here => exact .objects
  | item => exact .arrays
  | entry => exact .objects

theorem holdsChildren_of_isContainer {key : String} {value : Json}
    (h : value.isContainer = true) (hkey : key ≠ htmlKey ∧ key ≠ styleKey) :
    holdsChildren (key, value) = true := by
  simp only [holdsChildren, EntryKind.of, EntryKind.ofKey, if_neg hkey.1, if_neg hkey.2, h,
    Bool.true_or, if_true]
  by_cases hchildren : key = childrenKey
  · rw [if_pos hchildren]
  · rw [if_neg hchildren]

end Json

theorem Property.ofMember?_of_holdsChildren {entry : String × Json}
    (h : Json.holdsChildren entry = true) : Property.ofMember? entry = none := by
  unfold Json.holdsChildren at h
  unfold Property.ofMember?
  split at h <;> simp_all

namespace Content

open Json

variable {selector : String}

/-! ## Order -/

theorem childrenOf_of_not_holdsChildren {entry : String × Json} (h : holdsChildren entry = false) :
    childrenOf (ν := ν) selector entry = .ok [] := by
  unfold holdsChildren at h
  unfold childrenOf
  cases hkind : EntryKind.of entry.1 entry.2 <;> rw [hkind] at h <;> first | rfl | cases h

theorem filterMap_ofMember? (members : List (String × Json)) :
    (members.filter (!holdsChildren ·)).filterMap Property.ofMember? =
      members.filterMap Property.ofMember? := by
  rw [List.filterMap_filter]
  refine congrArg (List.filterMap · members) (funext fun entry => ?_)
  cases h : holdsChildren entry with
  | true => exact (Property.ofMember?_of_holdsChildren h).symm
  | false => rfl

/-- Moving children past properties changes nothing. -/
theorem ofJson_of_filter_eq {members others : List (String × Json)}
    (hchildren : members.filter holdsChildren = others.filter holdsChildren)
    (hproperties : members.filter (!holdsChildren ·) = others.filter (!holdsChildren ·)) :
    ofJson (ν := ν) selector (.object members) = ofJson selector (.object others) := by
  have hskip : ∀ list : List (String × Json),
      collect (childrenOf (ν := ν) selector) (list.filter holdsChildren) =
        collect (childrenOf selector) list :=
    fun _ => collect_filter fun _ _ => childrenOf_of_not_holdsChildren
  rw [ofJson_object, ofJson_object, ← filterMap_ofMember? members, ← filterMap_ofMember? others,
    hproperties, ← hskip members, ← hskip others, hchildren]

/-! ## Children as entries and as items -/

theorem childrenOf_of_isNest {entry : String × Json} (h : IsNest entry) :
    childrenOf (ν := ν) selector entry = (childItems entry).mapM Template.ofJson := by
  obtain ⟨key, value⟩ := entry
  rcases h with hchild | ⟨list, ⟨⟩⟩
  · have hne : key ≠ childrenKey := fun he => hchild.1 (he ▸ List.mem_cons_self)
    rw [childrenOf_of_isChild hchild, childItems_of_ne hne, List.mapM_cons, Template.ofJson_single]
    cases ofJson (ν := ν) key value <;> rfl
  · rw [childrenOf_children, childItems_children]

theorem holdsChildren_of_isNest {entry : String × Json} (h : IsNest entry) :
    holdsChildren entry = true := by
  unfold holdsChildren
  rcases h with hchild | ⟨list, rfl⟩
  · rw [EntryKind.of_of_isChild hchild]
  · rw [EntryKind.of_childrenKey]

/-- Children that are entries can be written as one list of children instead. -/
theorem ofJson_gather {nested : List (String × Json)} (h : ∀ entry ∈ nested, IsNest entry)
    (before after : List (String × Json)) :
    ofJson (ν := ν) selector (.object (before ++ nested ++ after)) =
      ofJson selector
        (.object (before ++ (childrenKey, .array (nested.flatMap childItems)) :: after)) := by
  have hproperties : ∀ entry, IsNest entry → Property.ofMember? entry = none :=
    fun _ hn => Property.ofMember?_of_holdsChildren (holdsChildren_of_isNest hn)
  have hnested : nested.filterMap Property.ofMember? = [] :=
    List.filterMap_eq_nil_iff.mpr fun entry he => hproperties entry (h entry he)
  have hchildren : collect (childrenOf (ν := ν) selector) nested =
      (nested.flatMap childItems).mapM Template.ofJson :=
    collect_eq_mapM fun entry he => childrenOf_of_isNest (h entry he)
  rw [ofJson_object, ofJson_object, List.append_assoc]
  simp only [List.filterMap_append, List.filterMap_cons, hnested, hproperties _ (.inr ⟨_, rfl⟩),
    collect_append, collect, hchildren, childrenOf_children, List.nil_append]

/-! ## Anywhere in a template -/

section

variable {key : String} {value other : Json}

theorem mapM_eq_of_ofJson_array_eq {list others : List Json}
    (h : ofJson (ν := ν) selector (.array list) = ofJson selector (.array others)) :
    list.mapM (Template.ofJson (ν := ν)) = others.mapM Template.ofJson := by
  rw [ofJson_array, ofJson_array] at h
  cases hlist : list.mapM (Template.ofJson (ν := ν)) <;>
    cases hothers : others.mapM (Template.ofJson (ν := ν)) <;> rw [hlist, hothers] at h <;> cases h
  all_goals rfl

theorem childrenOf_eq_of_ofJson_eq (hkey : key ≠ htmlKey ∧ key ≠ styleKey)
    (hshape : SameShape value other)
    (h : ∀ selector, ofJson (ν := ν) selector value = ofJson selector other) :
    childrenOf (ν := ν) selector (key, value) = childrenOf selector (key, other) := by
  by_cases hchildren : key = childrenKey
  · subst hchildren
    cases hshape with
    | arrays => rw [childrenOf_children, childrenOf_children, mapM_eq_of_ofJson_array_eq (h selector)]
    | objects =>
        have hne : ∀ members list, Json.object members ≠ .array list := nofun
        rw [childrenOf_children_of_ne (hne _), childrenOf_children_of_ne (hne _)]
        rfl
  · have hfree : key ∉ reservedKeys := by
      simp [reservedKeys, hchildren, hkey]
    rw [childrenOf_of_isChild ⟨hfree, .inl hshape.left⟩,
      childrenOf_of_isChild ⟨hfree, .inl hshape.right⟩, h key]

end

/-- Bags that come to the same content can take the place of each other. -/
theorem ofJson_fill {members others : List (String × Json)}
    (h : ∀ selector, ofJson (ν := ν) selector (.object members) = ofJson selector (.object others))
    (place : Place) (selector : String) :
    ofJson (ν := ν) selector (place.fill (.object members)) =
      ofJson selector (place.fill (.object others)) := by
  induction place generalizing selector with
  | here => exact h selector
  | item before label inner after ih =>
      rw [Place.fill, Place.fill, ofJson_array, ofJson_array, List.mapM_append,
        List.mapM_append, List.mapM_cons, List.mapM_cons, Template.ofJson_single,
        Template.ofJson_single, ih]
  | entry before key hkey inner after ih =>
      have hshape := inner.sameShape_fill members others
      have hproperty : ∀ value : Json, value.isContainer = true →
          Property.ofMember? (key, value) = none := fun _ hv =>
        Property.ofMember?_of_holdsChildren (holdsChildren_of_isContainer hv hkey)
      rw [Place.fill, Place.fill, ofJson_object, ofJson_object]
      simp only [List.filterMap_append, List.filterMap_cons, hproperty _ hshape.left,
        hproperty _ hshape.right, collect_append, collect,
        childrenOf_eq_of_ofJson_eq hkey hshape ih]

end Content

end TemplateTree
