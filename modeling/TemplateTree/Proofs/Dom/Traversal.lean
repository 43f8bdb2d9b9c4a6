import Mathlib.Data.List.Flatten
import TemplateTree.Proofs.Dom.Forest

/-! # Traversals of a forest

The bounds on levels and visits are never reached in a forest, so that traversals obey the
equations of plain recursion on children. -/

namespace TemplateTree.Dom

variable {dom : Dom}

namespace IsForest

/-! ## Folds -/

theorem ancestors_of_mem_children (hf : dom.IsForest) {id child : NodeId}
    (h : child ∈ dom.children id) : dom.ancestors child = id :: dom.ancestors id :=
  hf.ancestors_of_parent? (hf.mem_children.mp h)

/-- A node has as many levels left as there are ids that are not above it. -/
theorem foldUpTo_succ (hf : dom.IsForest) {β : Type} (combine : NodeId → List β → β)
    {depth : Nat} {id : NodeId} (h : dom.issued ≤ (dom.ancestors id).length + depth) :
    dom.foldUpTo combine (depth + 1) id = dom.foldUpTo combine depth id := by
  induction depth generalizing id with
  | zero =>
      have hc : dom.children id = [] := by
        cases hl : dom.contains id with
        | false => exact hf.children_of_not_contains hl
        | true =>
            have hlt : (dom.ancestors id).length < dom.issued :=
              hf.length_ancestorsUpTo dom.issued hl
            omega
      simp [foldUpTo, hc]
  | succ depth ih =>
      rw [foldUpTo, foldUpTo]
      congr 1
      apply List.map_congr_left
      intro child hc
      apply ih
      rw [hf.ancestors_of_mem_children hc, List.length_cons]
      omega

theorem fold_eq (hf : dom.IsForest) {β : Type} (combine : NodeId → List β → β) (id : NodeId) :
    dom.fold combine id = combine id ((dom.children id).map (dom.fold combine)) := by
  have hs : dom.foldUpTo combine (dom.issued + 1) id = dom.foldUpTo combine dom.issued id :=
    hf.foldUpTo_succ combine (Nat.le_add_left dom.issued _)
  unfold fold
  rw [← hs, foldUpTo]

/-- A fold looks at nothing but the nodes below where it starts. -/
theorem fold_congr {after : Dom} (hf : dom.IsForest) (ha : after.IsForest) {β : Type}
    {combine combine' : NodeId → List β → β} {keep : NodeId → Prop}
    (closed : ∀ id, keep id → ∀ child ∈ dom.children id, keep child)
    (hchildren : ∀ id, keep id → after.children id = dom.children id)
    (hcombine : ∀ id, keep id → combine' id = combine id) {id : NodeId} (hid : keep id) :
    after.fold combine' id = dom.fold combine id := by
  induction id using hf.induction with
  | step id ih =>
      rw [hf.fold_eq, ha.fold_eq, hchildren id hid, hcombine id hid]
      congr 1
      apply List.map_congr_left
      intro child hc
      exact ih child hc (closed id hid child hc)

/-! ## Walks -/

end IsForest

/-- The nodes below and including a node, each before its children. -/
def preorder (dom : Dom) : NodeId → List NodeId :=
  dom.fold fun id below => id :: below.flatten

namespace IsForest

theorem preorder_eq (hf : dom.IsForest) (id : NodeId) :
    dom.preorder id = id :: (dom.children id).flatMap dom.preorder := by
  rw [preorder, hf.fold_eq, List.flatMap_def]

theorem mem_preorder (hf : dom.IsForest) {id start : NodeId} :
    id ∈ dom.preorder start ↔ dom.Below id start := by
  induction start using hf.induction with
  | step start ih =>
      rw [hf.preorder_eq, List.mem_cons, List.mem_flatMap, Below,
        Relation.ReflTransGen.cases_tail_iff]
      constructor
      · rintro (rfl | ⟨child, hc, hid⟩)
        · exact .inl rfl
        · exact .inr ⟨child, (ih child hc).mp hid, hf.mem_children.mp hc⟩
      · rintro (rfl | ⟨child, hb, hp⟩)
        · exact .inl rfl
        · have hc : child ∈ dom.children start := hf.mem_children.mpr hp
          exact .inr ⟨child, hc, (ih child hc).mpr hb⟩

theorem not_below_of_mem_children (hf : dom.IsForest) {id child : NodeId}
    (h : child ∈ dom.children id) : ¬ dom.Below id child := by
  intro hb
  exact hf.acyclic id (Relation.TransGen.tail' hb (hf.mem_children.mp h))

/-- Nothing lies below two children of one node. -/
theorem children_disjoint (hf : dom.IsForest) {id low first second : NodeId}
    (h₁ : first ∈ dom.children id) (h₂ : second ∈ dom.children id)
    (hb₁ : dom.Below low first) (hb₂ : dom.Below low second) : first = second := by
  have key : ∀ {child other}, child ∈ dom.children id → other ∈ dom.children id →
      dom.Below child other → child = other := by
    intro child other hc ho hb
    rcases Relation.ReflTransGen.cases_head hb with heq | ⟨parent, hp, hb⟩
    · exact heq
    · have hid : id = parent := Option.some.inj ((hf.mem_children.mp hc).symm.trans hp)
      exact absurd (hid ▸ hb) (hf.not_below_of_mem_children ho)
  rcases below_or_below hb₁ hb₂ with hb | hb
  · exact key h₁ h₂ hb
  · exact (key h₂ h₁ hb).symm

theorem preorder_nodup (hf : dom.IsForest) (start : NodeId) : (dom.preorder start).Nodup := by
  induction start using hf.induction with
  | step start ih =>
      rw [hf.preorder_eq, List.nodup_cons, List.nodup_flatMap]
      refine ⟨?_, ih, ?_⟩
      · intro h
        obtain ⟨child, hc, hb⟩ := List.mem_flatMap.mp h
        exact hf.not_below_of_mem_children hc (hf.mem_preorder.mp hb)
      · refine (hf.children_nodup start).imp_of_mem ?_
        intro first second h₁ h₂ hne low hl₁ hl₂
        exact hne (hf.children_disjoint h₁ h₂ (hf.mem_preorder.mp hl₁) (hf.mem_preorder.mp hl₂))

/-- Every visit of a live node gives one node of the recursive order. -/
theorem walkUpTo_eq_take (hf : dom.IsForest) (count : Nat) {pending : List NodeId}
    (h : ∀ id ∈ pending, dom.contains id) :
    dom.walkUpTo count pending = (pending.flatMap dom.preorder).take count := by
  induction count generalizing pending with
  | zero => simp [walkUpTo]
  | succ count ih =>
      cases pending with
      | nil => simp [walkUpTo]
      | cons id pending =>
          have hid : dom.contains id := h id List.mem_cons_self
          have hnext : ∀ other ∈ dom.children id ++ pending, dom.contains other := by
            intro other ho
            rcases List.mem_append.mp ho with ho | ho
            · exact hf.mem_children_live ho
            · exact h other (List.mem_cons_of_mem id ho)
          rw [walkUpTo, if_pos hid, ih hnext, List.flatMap_cons, hf.preorder_eq id]
          simp

theorem walk_eq_preorder (hf : dom.IsForest) {start : NodeId} (h : dom.contains start) :
    dom.walk start = dom.preorder start := by
  have hlive : ∀ id ∈ dom.preorder start, dom.contains id := by
    intro id hid
    exact hf.below_live (hf.mem_preorder.mp hid) h
  have hlen : (dom.preorder start).length ≤ dom.issued :=
    length_le_issued (hf.preorder_nodup start) hlive
  rw [walk, hf.walkUpTo_eq_take _ (by simpa using h), List.flatMap_singleton]
  exact List.take_of_length_le (by omega)

theorem mem_walk (hf : dom.IsForest) {id start : NodeId} (h : dom.contains start) :
    id ∈ dom.walk start ↔ dom.Below id start := by
  rw [hf.walk_eq_preorder h, hf.mem_preorder]

end IsForest

end TemplateTree.Dom
