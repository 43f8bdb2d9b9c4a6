import TemplateTree.Proofs.Dom.Traversal

/-! # Changes of a forest

Every change of a forest leaves a forest. -/

namespace TemplateTree.Dom.IsForest

variable {dom : Dom}

theorem empty : Dom.empty.IsForest where
  childLists_isSome _ := rfl
  child_live h := nomatch h
  mem_children := ⟨(nomatch ·), (nomatch ·)⟩
  children_nodup _ := List.nodup_nil
  ranked := ⟨fun _ => 0, fun h => nomatch h⟩

theorem modifyElement (hf : dom.IsForest) (id : NodeId) (change : Element → Element) :
    (dom.modifyElement id change).IsForest where
  childLists_isSome other := by simp [hf.childLists_isSome]
  child_live h := by simpa using hf.child_live h
  mem_children := hf.mem_children
  children_nodup := hf.children_nodup
  ranked := hf.ranked

/-! ## New nodes -/

theorem children_insert (hf : dom.IsForest) (element : Element) (id : NodeId) :
    (dom.insert element).2.children id = dom.children id := by
  unfold children
  rw [childLists_insert]
  split
  · subst id
    exact (hf.children_of_not_contains dom.contains_issued).symm
  · rfl

theorem insert (hf : dom.IsForest) (element : Element) : (dom.insert element).2.IsForest where
  childLists_isSome id := by
    rw [childLists_insert, contains_insert]
    by_cases h : id = ⟨dom.issued⟩ <;> simp [h, hf.childLists_isSome]
  child_live h := by simp [hf.child_live h]
  mem_children := by
    intro child parent
    rw [hf.children_insert, parent?_insert]
    exact hf.mem_children
  children_nodup id := by
    rw [hf.children_insert]
    exact hf.children_nodup id
  ranked := hf.ranked

/-! ## Moved nodes -/

/-- A node is in no child list but the one of its parent. -/
theorem filter_children_of_parent?_ne (hf : dom.IsForest) {id parent : NodeId}
    (h : dom.parent? id ≠ some parent) :
    (dom.children parent).filter (· != id) = dom.children parent := by
  apply List.filter_eq_self.mpr
  intro child hc
  have hne : child ≠ id := by
    rintro rfl
    exact h (hf.mem_children.mp hc)
  simpa using hne

/-- Taking a node off its parent takes it out of all child lists. -/
theorem children_detach (hf : dom.IsForest) (id other : NodeId) :
    (dom.detach id).children other = (dom.children other).filter (· != id) := by
  unfold Dom.detach
  split
  · rename_i hp
    exact (hf.filter_children_of_parent?_ne (by simp [hp])).symm
  · rename_i parent hp
    by_cases ho : other = parent
    · subst ho
      rw [children, NodeMap.get?_modify, if_pos rfl, hf.childLists_get? (hf.parent_live hp)]
      rfl
    · rw [hf.filter_children_of_parent?_ne (by simpa [hp] using Ne.symm ho)]
      simp [children, ho]

/-- Ranks stay good when links are taken away. -/
theorem ranked_of_links (hf : dom.IsForest) {after : Dom}
    (h : ∀ {child parent}, after.parent? child = some parent →
      dom.parent? child = some parent) :
    ∃ rank : NodeId → Nat, ∀ {child parent},
      after.parent? child = some parent → rank child < rank parent := by
  obtain ⟨rank, hr⟩ := hf.ranked
  exact ⟨rank, fun hp => hr (h hp)⟩

theorem detach (hf : dom.IsForest) (id : NodeId) : (dom.detach id).IsForest where
  childLists_isSome other := by
    rw [contains_detach, ← hf.childLists_isSome]
    unfold Dom.detach
    split
    · rfl
    · rename_i parent _
      by_cases ho : other = parent <;> simp [ho]
  child_live {child parent} h := by
    rw [parent?_detach] at h
    split at h
    · cases h
    · simpa using hf.child_live h
  mem_children {child parent} := by
    rw [hf.children_detach, parent?_detach, List.mem_filter, hf.mem_children]
    by_cases hc : child = id <;> simp [hc]
  children_nodup other := by
    rw [hf.children_detach]
    exact (hf.children_nodup other).filter _
  ranked := by
    refine hf.ranked_of_links fun {child parent} h => ?_
    rw [parent?_detach] at h
    split at h
    · cases h
    · exact h

/-- Without links to a parent a path from `low` still leads to the same nodes or to fewer. -/
theorem below_of_below_detach {id low high : NodeId} (h : (dom.detach id).Below low high) :
    dom.Below low high := by
  refine Relation.ReflTransGen.mono ?_ _ _ h
  intro child parent hc
  rw [ChildOf, parent?_detach] at hc
  split at hc
  · cases hc
  · exact hc

theorem children_attach (hf : dom.IsForest) {parent : NodeId} (h : dom.contains parent)
    (child id : NodeId) :
    (dom.attach parent child).children id =
      if id = parent then dom.children id ++ [child] else dom.children id := by
  by_cases hi : id = parent
  · subst hi
    rw [if_pos rfl, children, Dom.attach, NodeMap.get?_modify, if_pos rfl,
      hf.childLists_get? h]
    rfl
  · simp [children, Dom.attach, hi]

/-- All nodes from `parent` upwards move above the child. -/
theorem attach_ranked (hf : dom.IsForest) {parent child : NodeId}
    (hb : ¬ dom.Below parent child) :
    ∃ rank : NodeId → Nat, ∀ {low high},
      (dom.attach parent child).parent? low = some high → rank low < rank high := by
  classical
  obtain ⟨rank, hr⟩ := hf.ranked
  refine ⟨fun id => if dom.Below parent id then rank id + rank child + 1 else rank id, ?_⟩
  intro low high h
  simp only
  rw [parent?_attach] at h
  split at h
  · rename_i hlow
    obtain rfl : parent = high := Option.some.inj h
    rw [hlow, if_neg hb, if_pos (show dom.Below parent parent from .refl)]
    omega
  · have hlt := hr h
    by_cases hl : dom.Below parent low
    · rw [if_pos hl, if_pos (show dom.Below parent high from hl.tail h)]
      omega
    · rw [if_neg hl]
      split <;> omega

theorem attach (hf : dom.IsForest) {parent child : NodeId} (hp : dom.contains parent)
    (hc : dom.contains child) (hnone : dom.parent? child = none)
    (hb : ¬ dom.Below parent child) : (dom.attach parent child).IsForest where
  childLists_isSome id := by
    rw [contains_attach, ← hf.childLists_isSome]
    by_cases hi : id = parent <;> simp [Dom.attach, hi]
  child_live {low high} h := by
    rw [parent?_attach] at h
    rw [contains_attach]
    split at h
    · rename_i hlow
      exact hlow ▸ hc
    · exact hf.child_live h
  mem_children {low high} := by
    rw [hf.children_attach hp, parent?_attach]
    by_cases hl : low = child
    · have hm : ∀ id, child ∉ dom.children id := by
        intro id hm
        simp [hf.mem_children, hnone] at hm
      by_cases hh : high = parent
      · simp [hl, hh]
      · simp [hl, hh, hm, Ne.symm hh]
    · by_cases hh : high = parent <;> simp [hl, hh, hf.mem_children]
  children_nodup id := by
    rw [hf.children_attach hp]
    split
    · refine (hf.children_nodup id).append (List.nodup_singleton child) ?_
      intro other ho hs
      rw [List.mem_singleton.mp hs, hf.mem_children, hnone] at ho
      cases ho
    · exact hf.children_nodup id
  ranked := hf.attach_ranked hb

theorem appendChild (hf : dom.IsForest) {parent child : NodeId} {after : Dom}
    (h : dom.appendChild parent child = .ok after) : after.IsForest := by
  obtain ⟨hp, hc, hne, ha, rfl⟩ := dom.appendChild_eq_ok h
  have hb : ¬ (dom.detach child).Below parent child :=
    fun h => hf.not_below hne ha (below_of_below_detach h)
  exact (hf.detach child).attach (by simpa using hp) (by simpa using hc) (by simp) hb

/-! ## Removed nodes -/

theorem children_foldl_erase (ids : List NodeId) (id : NodeId) :
    (ids.foldl Dom.erase dom).children id = if id ∈ ids then [] else dom.children id := by
  unfold children
  rw [childLists_foldl_erase]
  split <;> rfl

/-- No link leads into the tree of a node without a parent, or out of it. -/
theorem mem_walk_iff_of_parent? (hf : dom.IsForest) {root child parent : NodeId}
    (hl : dom.contains root) (hr : dom.parent? root = none)
    (hp : dom.parent? child = some parent) :
    parent ∈ dom.walk root ↔ child ∈ dom.walk root := by
  rw [hf.mem_walk hl, hf.mem_walk hl]
  constructor
  · exact fun hb => .head hp hb
  · intro hb
    rcases Relation.ReflTransGen.cases_head hb with rfl | ⟨above, ha, hb⟩
    · simp [hr] at hp
    · exact Option.some.inj (hp.symm.trans ha) ▸ hb

theorem erase_walk (hf : dom.IsForest) {root : NodeId} (hl : dom.contains root)
    (hr : dom.parent? root = none) : ((dom.walk root).foldl Dom.erase dom).IsForest where
  childLists_isSome id := by
    rw [childLists_foldl_erase, contains, element?_foldl_erase]
    split
    · rfl
    · exact hf.childLists_isSome id
  child_live {child parent} h := by
    rw [parent?_foldl_erase] at h
    rw [contains, element?_foldl_erase]
    split at h
    · cases h
    · rename_i hc
      rw [if_neg hc]
      exact hf.child_live h
  mem_children {child parent} := by
    rw [children_foldl_erase, parent?_foldl_erase]
    by_cases hp : dom.parent? child = some parent
    · have hsame := hf.mem_walk_iff_of_parent? hl hr hp
      by_cases hc : child ∈ dom.walk root
      · simp [hc, hsame.mpr hc]
      · have hn : parent ∉ dom.walk root := fun h => hc (hsame.mp h)
        simp [hc, hn, hf.mem_children]
    · have hm : child ∉ dom.children parent := fun h => hp (hf.mem_children.mp h)
      split <;> split <;> simp [hm, hp]
  children_nodup id := by
    rw [children_foldl_erase]
    split
    · exact List.nodup_nil
    · exact hf.children_nodup id
  ranked := by
    refine hf.ranked_of_links fun {child parent} h => ?_
    rw [parent?_foldl_erase] at h
    split at h
    · cases h
    · exact h

theorem remove (hf : dom.IsForest) (id : NodeId) : (dom.remove id).2.IsForest := by
  unfold Dom.remove
  cases he : dom.element? id with
  | none => exact hf
  | some element =>
      have hl : (dom.detach id).contains id := by simp [contains, he]
      exact (hf.detach id).erase_walk hl (by simp)

theorem foldl_remove (hf : dom.IsForest) (ids : List NodeId) :
    (ids.foldl (fun dom child => (dom.remove child).2) dom).IsForest := by
  induction ids generalizing dom with
  | nil => exact hf
  | cons child rest ih => exact ih (hf.remove child)

theorem setText (hf : dom.IsForest) {id : NodeId} {text : String} {after : Dom}
    (h : dom.setText id text = .ok after) : after.IsForest := by
  unfold Dom.setText at h
  split at h
  · cases h
    exact (hf.modifyElement id _).foldl_remove _
  · cases h

end TemplateTree.Dom.IsForest
