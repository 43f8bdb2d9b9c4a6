import Mathlib.Data.List.Nodup
import Mathlib.Data.List.Perm.Subperm
import Mathlib.Logic.Relation
import Mathlib.Tactic.Cases
import TemplateTree.Proofs.Dom.Equations

/-! # Forests

What the elements, the child lists and the parents of a forest owe to each other. Links lead
to nodes of higher rank, so that recursion from a node to its children ends. -/

namespace TemplateTree.Dom

variable {dom : Dom}

/-- The second node is the parent of the first. -/
def ChildOf (dom : Dom) (child parent : NodeId) : Prop :=
  dom.parent? child = some parent

/-- The first node is the second one or lies somewhere below it. -/
def Below (dom : Dom) : NodeId → NodeId → Prop :=
  Relation.ReflTransGen dom.ChildOf

structure IsForest (dom : Dom) : Prop where
  childLists_isSome : ∀ id, (dom.childLists.get? id).isSome = dom.contains id
  child_live : ∀ {child parent}, dom.parent? child = some parent → dom.contains child
  mem_children : ∀ {child parent}, child ∈ dom.children parent ↔ dom.parent? child = some parent
  children_nodup : ∀ id, (dom.children id).Nodup
  ranked : ∃ rank : NodeId → Nat,
    ∀ {child parent}, dom.parent? child = some parent → rank child < rank parent

namespace IsForest

/-! ## Links -/

theorem parent_live (hf : dom.IsForest) {child parent : NodeId}
    (h : dom.parent? child = some parent) : dom.contains parent := by
  have hm : child ∈ dom.children parent := hf.mem_children.mpr h
  rw [← hf.childLists_isSome]
  unfold children at hm
  cases hl : dom.childLists.get? parent with
  | none => simp [hl] at hm
  | some list => rfl

theorem mem_children_live (hf : dom.IsForest) {child parent : NodeId}
    (h : child ∈ dom.children parent) : dom.contains child :=
  hf.child_live (hf.mem_children.mp h)

theorem children_of_not_contains (hf : dom.IsForest) {id : NodeId}
    (h : dom.contains id = false) : dom.children id = [] := by
  apply List.eq_nil_iff_forall_not_mem.mpr
  intro child hc
  simp [hf.parent_live (hf.mem_children.mp hc)] at h

theorem parent?_of_not_contains (hf : dom.IsForest) {id : NodeId}
    (h : dom.contains id = false) : dom.parent? id = none := by
  cases hp : dom.parent? id with
  | none => rfl
  | some parent => simp [hf.child_live hp] at h

theorem childLists_get? (hf : dom.IsForest) {id : NodeId} (h : dom.contains id) :
    dom.childLists.get? id = some (dom.children id) := by
  rw [← hf.childLists_isSome] at h
  obtain ⟨list, hl⟩ := Option.isSome_iff_exists.mp h
  simp [children, hl]

/-- Induction from the children of a node to the node. -/
theorem induction (hf : dom.IsForest) {motive : NodeId → Prop}
    (step : ∀ id, (∀ child ∈ dom.children id, motive child) → motive id) (id : NodeId) :
    motive id := by
  obtain ⟨rank, hr⟩ := hf.ranked
  induction hn : rank id using Nat.strongRecOn generalizing id with
  | ind n ih =>
      apply step
      intro child hc
      exact ih (rank child) (hn ▸ hr (hf.mem_children.mp hc)) child rfl

/-- No node is above itself. -/
theorem acyclic (hf : dom.IsForest) (id : NodeId) : ¬ Relation.TransGen dom.ChildOf id id := by
  obtain ⟨rank, hr⟩ := hf.ranked
  have hlt : ∀ {low high}, Relation.TransGen dom.ChildOf low high → rank low < rank high := by
    intro low high h
    induction h with
    | single h => exact hr h
    | tail _ h ih => exact Nat.lt_trans ih (hr h)
  exact fun h => Nat.lt_irrefl _ (hlt h)

theorem below_live (hf : dom.IsForest) {low high : NodeId} (h : dom.Below low high)
    (hh : dom.contains high) : dom.contains low := by
  induction h using Relation.ReflTransGen.head_induction_on with
  | refl => exact hh
  | head h _ _ => exact hf.child_live h

/-- Of two nodes above a third one, one is above the other. -/
theorem below_or_below {low first second : NodeId} (h₁ : dom.Below low first)
    (h₂ : dom.Below low second) : dom.Below first second ∨ dom.Below second first := by
  refine Relation.ReflTransGen.total_of_right_unique ?_ h₁ h₂
  intro id parent parent' h h'
  exact Option.some.inj (h.symm.trans h')

/-! ## Ancestors -/

theorem mem_ancestorsUpTo_above {count : Nat} {id ancestor : NodeId}
    (h : ancestor ∈ dom.ancestorsUpTo count id) : Relation.TransGen dom.ChildOf id ancestor := by
  induction count generalizing id with
  | zero => simp [ancestorsUpTo] at h
  | succ count ih =>
      rw [ancestorsUpTo] at h
      cases hp : dom.parent? id with
      | none => simp [hp] at h
      | some parent =>
          simp only [hp, List.mem_cons] at h
          rcases h with rfl | h
          · exact .single hp
          · exact .head hp (ih h)

theorem mem_ancestorsUpTo_live (hf : dom.IsForest) {count : Nat} {id ancestor : NodeId}
    (h : ancestor ∈ dom.ancestorsUpTo count id) : dom.contains ancestor := by
  cases mem_ancestorsUpTo_above h with
  | single h => exact hf.parent_live h
  | tail _ h => exact hf.parent_live h

theorem ancestorsUpTo_nodup (hf : dom.IsForest) (count : Nat) (id : NodeId) :
    (id :: dom.ancestorsUpTo count id).Nodup := by
  induction count generalizing id with
  | zero => simp [ancestorsUpTo]
  | succ count ih =>
      refine List.nodup_cons.mpr ⟨fun h => hf.acyclic id (mem_ancestorsUpTo_above h), ?_⟩
      rw [ancestorsUpTo]
      cases dom.parent? id with
      | none => exact List.nodup_nil
      | some parent => exact ih parent

end IsForest

/-- Distinct live nodes are no more than the ids given so far. -/
theorem length_le_issued {ids : List NodeId} (hn : ids.Nodup)
    (hl : ∀ id ∈ ids, dom.contains id) : ids.length ≤ dom.issued := by
  have hinj : Function.Injective NodeId.index := by
    intro ⟨i⟩ ⟨j⟩ h
    exact congrArg NodeId.mk h
  have hsub : ids.map NodeId.index ⊆ List.range dom.issued := by
    intro index h
    obtain ⟨id, hid, rfl⟩ := List.mem_map.mp h
    exact List.mem_range.mpr (dom.index_lt_issued (hl id hid))
  simpa using ((hn.map hinj).subperm hsub).length_le

namespace IsForest

theorem length_ancestorsUpTo (hf : dom.IsForest) (count : Nat) {id : NodeId}
    (h : dom.contains id) : (dom.ancestorsUpTo count id).length < dom.issued := by
  have hl : ∀ other ∈ id :: dom.ancestorsUpTo count id, dom.contains other := by
    intro other ho
    rcases List.mem_cons.mp ho with rfl | ho
    · exact h
    · exact hf.mem_ancestorsUpTo_live ho
  exact length_le_issued (hf.ancestorsUpTo_nodup count id) hl

/-- A count that is not used up is enough. -/
theorem ancestorsUpTo_succ {count : Nat} {id : NodeId}
    (h : (dom.ancestorsUpTo count id).length < count) :
    dom.ancestorsUpTo (count + 1) id = dom.ancestorsUpTo count id := by
  induction count generalizing id with
  | zero => simp at h
  | succ count ih =>
      rw [ancestorsUpTo, ancestorsUpTo]
      rw [ancestorsUpTo] at h
      cases hp : dom.parent? id with
      | none => rfl
      | some parent =>
          simp only [hp, List.length_cons, Nat.add_lt_add_iff_right] at h
          simp only [ih h]

theorem ancestors_of_parent? (hf : dom.IsForest) {id parent : NodeId}
    (h : dom.parent? id = some parent) :
    dom.ancestors id = parent :: dom.ancestors parent := by
  have hi := hf.length_ancestorsUpTo dom.issued (hf.child_live h)
  unfold ancestors at *
  cases hn : dom.issued with
  | zero => simp [hn] at hi
  | succ count =>
      rw [hn, ancestorsUpTo] at hi
      simp only [h, List.length_cons, Nat.add_lt_add_iff_right] at hi
      rw [ancestorsUpTo_succ hi]
      simp only [ancestorsUpTo, h]

/-- The ancestors of a node are the nodes that its parent links lead to. -/
theorem mem_ancestors (hf : dom.IsForest) {id ancestor : NodeId} :
    ancestor ∈ dom.ancestors id ↔ Relation.TransGen dom.ChildOf id ancestor := by
  refine ⟨mem_ancestorsUpTo_above, ?_⟩
  intro h
  induction h using Relation.TransGen.head_induction_on with
  | single h => simp [hf.ancestors_of_parent? h]
  | head h _ ih => simp [hf.ancestors_of_parent? h, ih]

/-- From every node the parent links lead to one that has none. -/
theorem exists_top (hf : dom.IsForest) (id : NodeId) :
    ∃ top, dom.Below id top ∧ dom.parent? top = none := by
  induction hl : dom.ancestors id generalizing id with
  | nil =>
      cases hp : dom.parent? id with
      | none => exact ⟨id, .refl, hp⟩
      | some parent => cases (hf.ancestors_of_parent? hp).symm.trans hl
  | cons above rest ih =>
      cases hp : dom.parent? id with
      | none => exact ⟨id, .refl, hp⟩
      | some parent =>
          have hrest := (hf.ancestors_of_parent? hp).symm.trans hl
          obtain ⟨top, hb, ht⟩ := ih parent (List.cons.inj hrest).2
          exact ⟨top, .head hp hb, ht⟩

/-- A node is the same as another or above it unless the search for a cycle finds it. -/
theorem not_below (hf : dom.IsForest) {low high : NodeId} (hne : low ≠ high)
    (h : high ∉ dom.ancestors low) : ¬ dom.Below low high := by
  intro hb
  rcases Relation.reflTransGen_iff_eq_or_transGen.mp hb with heq | ht
  · exact hne heq.symm
  · exact h (hf.mem_ancestors.mpr ht)

end IsForest

end TemplateTree.Dom
