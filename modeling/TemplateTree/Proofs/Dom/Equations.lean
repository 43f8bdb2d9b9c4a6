import Mathlib.Data.List.Basic
import TemplateTree.Dom.Basic

/-! Computation rules for the maps of a forest and for its changes, node by node. -/

namespace TemplateTree

namespace NodeMap

variable {α : Type}

@[simp] theorem get?_put (map : NodeMap α) (id : NodeId) (value : α) (other : NodeId) :
    (map.put id value).get? other = if other = id then some value else map.get? other := by
  obtain ⟨i⟩ := id
  obtain ⟨j⟩ := other
  simp only [get?, put, NodeId.mk.injEq, Array.getElem?_setIfInBounds, Array.size_append,
    Array.size_replicate]
  by_cases h : j = i
  · subst h
    rw [if_pos rfl, if_pos (by omega), if_pos rfl]
    rfl
  · rw [if_neg (Ne.symm h), if_neg h, Array.getElem?_append]
    split
    · rfl
    · rename_i hj
      rw [Array.getElem?_eq_none (Nat.le_of_not_lt hj), Array.getElem?_replicate]
      split <;> rfl

@[simp] theorem get?_erase (map : NodeMap α) (id other : NodeId) :
    (map.erase id).get? other = if other = id then none else map.get? other := by
  obtain ⟨i⟩ := id
  obtain ⟨j⟩ := other
  simp only [get?, erase, NodeId.mk.injEq, Array.getElem?_modify]
  by_cases h : j = i
  · subst h
    cases map.slots[j]? <;> simp
  · simp [h, Ne.symm h]

@[simp] theorem get?_modify (map : NodeMap α) (id : NodeId) (change : α → α) (other : NodeId) :
    (map.modify id change).get? other =
      if other = id then (map.get? id).map change else map.get? other := by
  obtain ⟨i⟩ := id
  obtain ⟨j⟩ := other
  simp only [get?, modify, NodeId.mk.injEq, Array.getElem?_modify]
  by_cases h : j = i
  · subst h
    cases map.slots[j]? <;> simp
  · simp [h, Ne.symm h]

/-- Only ids that have been used have values. -/
theorem index_lt_of_get? {map : NodeMap α} {id : NodeId} {value : α}
    (h : map.get? id = some value) : id.index < map.next.index := by
  by_contra hge
  simp [get?, Array.getElem?_eq_none (Nat.le_of_not_lt hge)] at h

@[simp] theorem get?_next (map : NodeMap α) : map.get? map.next = none := by
  simp [get?, next]

@[simp] theorem next_put (map : NodeMap α) (id : NodeId) (value : α) :
    (map.put id value).next = ⟨max map.next.index (id.index + 1)⟩ := by
  simp only [next, put, Array.size_setIfInBounds, Array.size_append, Array.size_replicate,
    NodeId.mk.injEq]
  omega

@[simp] theorem next_erase (map : NodeMap α) (id : NodeId) : (map.erase id).next = map.next := by
  simp [next, erase]

@[simp] theorem next_modify (map : NodeMap α) (id : NodeId) (change : α → α) :
    (map.modify id change).next = map.next := by
  simp [next, modify]

theorem modify_modify (map : NodeMap α) (id : NodeId) (first second : α → α) :
    (map.modify id first).modify id second = map.modify id (second ∘ first) := by
  obtain ⟨i⟩ := id
  simp only [modify, NodeMap.mk.injEq]
  apply Array.ext_getElem?
  intro j
  simp only [Array.getElem?_modify]
  by_cases h : i = j
  · subst h
    cases map.slots[i]? <;> simp
  · simp [h]

theorem modify_id (map : NodeMap α) (id : NodeId) : map.modify id (fun value => value) = map := by
  obtain ⟨slots⟩ := map
  simp only [modify, NodeMap.mk.injEq]
  apply Array.ext_getElem?
  intro j
  rw [Array.getElem?_modify]
  split
  · cases slots[j]? <;> simp
  · rfl

theorem modify_put (map : NodeMap α) (id : NodeId) (value : α) (change : α → α) :
    (map.put id value).modify id change = map.put id (change value) := by
  simp only [modify, put, NodeMap.mk.injEq]
  apply Array.ext_getElem?
  intro j
  simp only [Array.getElem?_modify, Array.getElem?_setIfInBounds]
  by_cases h : id.index = j
  · simp only [if_pos h]
    split <;> rfl
  · simp only [if_neg h]

end NodeMap

namespace Dom

variable (dom : Dom)

/-! ## Changed elements -/

@[simp] theorem element?_modifyElement (id : NodeId) (change : Element → Element)
    (other : NodeId) :
    (dom.modifyElement id change).element? other =
      if other = id then (dom.element? id).map change else dom.element? other :=
  NodeMap.get?_modify ..

@[simp] theorem contains_modifyElement (id : NodeId) (change : Element → Element)
    (other : NodeId) : (dom.modifyElement id change).contains other = dom.contains other := by
  rw [contains, element?_modifyElement]
  split
  · subst other
    exact Option.isSome_map
  · rfl

@[simp] theorem parent?_modifyElement (id : NodeId) (change : Element → Element) :
    (dom.modifyElement id change).parent? = dom.parent? := rfl

@[simp] theorem children_modifyElement (id : NodeId) (change : Element → Element) :
    (dom.modifyElement id change).children = dom.children := rfl

@[simp] theorem childLists_modifyElement (id : NodeId) (change : Element → Element) :
    (dom.modifyElement id change).childLists = dom.childLists := rfl

@[simp] theorem issued_modifyElement (id : NodeId) (change : Element → Element) :
    (dom.modifyElement id change).issued = dom.issued := by
  simp [issued, modifyElement]

theorem modifyElement_modifyElement (id : NodeId) (first second : Element → Element) :
    (dom.modifyElement id first).modifyElement id second =
      dom.modifyElement id (second ∘ first) := by
  simp [modifyElement, NodeMap.modify_modify]

theorem modifyElement_id (id : NodeId) : dom.modifyElement id (fun element => element) = dom := by
  simp [modifyElement, NodeMap.modify_id]

/-! ## New nodes -/

/-- The id of the next node. -/
@[simp] theorem element?_insert (element : Element) (id : NodeId) :
    (dom.insert element).2.element? id =
      if id = ⟨dom.issued⟩ then some element else dom.element? id :=
  NodeMap.get?_put ..

@[simp] theorem contains_insert (element : Element) (id : NodeId) :
    (dom.insert element).2.contains id = (decide (id = ⟨dom.issued⟩) || dom.contains id) := by
  rw [contains, element?_insert]
  by_cases h : id = ⟨dom.issued⟩ <;> simp [h, contains]

@[simp] theorem parent?_insert (element : Element) :
    (dom.insert element).2.parent? = dom.parent? := rfl

@[simp] theorem childLists_insert (element : Element) (id : NodeId) :
    (dom.insert element).2.childLists.get? id =
      if id = ⟨dom.issued⟩ then some [] else dom.childLists.get? id :=
  NodeMap.get?_put ..

@[simp] theorem issued_insert (element : Element) :
    (dom.insert element).2.issued = dom.issued + 1 := by
  simp [issued, insert]

theorem modifyElement_insert (element : Element) (change : Element → Element) :
    (dom.insert element).2.modifyElement ⟨dom.issued⟩ change =
      (dom.insert (change element)).2 := by
  simp only [modifyElement, insert, Dom.mk.injEq, and_true]
  exact NodeMap.modify_put dom.elements dom.elements.next element change

theorem index_lt_issued {id : NodeId} (h : dom.contains id) : id.index < dom.issued := by
  obtain ⟨element, he⟩ := Option.isSome_iff_exists.mp h
  exact NodeMap.index_lt_of_get? he

@[simp] theorem contains_issued : dom.contains ⟨dom.issued⟩ = false := by
  have h : dom.element? ⟨dom.issued⟩ = none := NodeMap.get?_next dom.elements
  rw [contains, h]
  rfl

/-! ## Removed nodes -/

@[simp] theorem element?_foldl_erase (ids : List NodeId) (id : NodeId) :
    (ids.foldl erase dom).element? id = if id ∈ ids then none else dom.element? id := by
  induction ids generalizing dom with
  | nil => simp
  | cons first rest ih =>
      rw [List.foldl_cons, ih]
      by_cases h : id = first <;> simp [h, erase, element?]

@[simp] theorem parent?_foldl_erase (ids : List NodeId) (id : NodeId) :
    (ids.foldl erase dom).parent? id = if id ∈ ids then none else dom.parent? id := by
  induction ids generalizing dom with
  | nil => simp
  | cons first rest ih =>
      rw [List.foldl_cons, ih]
      by_cases h : id = first <;> simp [h, erase, parent?]

@[simp] theorem childLists_foldl_erase (ids : List NodeId) (id : NodeId) :
    (ids.foldl erase dom).childLists.get? id =
      if id ∈ ids then none else dom.childLists.get? id := by
  induction ids generalizing dom with
  | nil => simp
  | cons first rest ih =>
      rw [List.foldl_cons, ih]
      by_cases h : id = first <;> simp [h, erase]

@[simp] theorem issued_foldl_erase (ids : List NodeId) :
    (ids.foldl erase dom).issued = dom.issued := by
  induction ids generalizing dom with
  | nil => rfl
  | cons first rest ih =>
      rw [List.foldl_cons, ih]
      simp [issued, erase]

/-! ## Moved nodes -/

@[simp] theorem elements_detach (id : NodeId) : (dom.detach id).elements = dom.elements := by
  unfold detach
  split <;> rfl

@[simp] theorem element?_detach (id : NodeId) : (dom.detach id).element? = dom.element? := by
  funext other
  simp [element?]

@[simp] theorem contains_detach (id : NodeId) : (dom.detach id).contains = dom.contains := by
  funext other
  simp [contains]

@[simp] theorem issued_detach (id : NodeId) : (dom.detach id).issued = dom.issued := by
  simp [issued]

@[simp] theorem parent?_detach (id other : NodeId) :
    (dom.detach id).parent? other = if other = id then none else dom.parent? other := by
  unfold detach
  split
  · rename_i h
    by_cases ho : other = id <;> simp [ho, h]
  · simp [parent?]

@[simp] theorem element?_attach (parent child : NodeId) :
    (dom.attach parent child).element? = dom.element? := rfl

@[simp] theorem contains_attach (parent child : NodeId) :
    (dom.attach parent child).contains = dom.contains := rfl

@[simp] theorem issued_attach (parent child : NodeId) :
    (dom.attach parent child).issued = dom.issued := rfl

@[simp] theorem parent?_attach (parent child other : NodeId) :
    (dom.attach parent child).parent? other =
      if other = child then some parent else dom.parent? other :=
  NodeMap.get?_put ..

/-- Everything that an accepted `appendChild` has checked and done. -/
theorem appendChild_eq_ok {parent child : NodeId} {after : Dom}
    (h : dom.appendChild parent child = .ok after) :
    dom.contains parent ∧ dom.contains child ∧ parent ≠ child ∧
      child ∉ dom.ancestors parent ∧ after = (dom.detach child).attach parent child := by
  unfold appendChild at h
  split at h
  · cases h
  · rename_i hlive
    split at h
    · cases h
    · rename_i hcycle
      simp only [Bool.or_eq_true, Bool.not_eq_true', not_or, Bool.not_eq_false] at hlive
      simp only [not_or] at hcycle
      cases h
      exact ⟨hlive.1, hlive.2, hcycle.1, hcycle.2, rfl⟩

end Dom

end TemplateTree
