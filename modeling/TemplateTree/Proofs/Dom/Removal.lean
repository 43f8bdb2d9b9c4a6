import TemplateTree.Proofs.Dom.Agreement
import TemplateTree.Proofs.Dom.Walk

/-! # Removed nodes

Removing nodes takes away their trees and nothing else, so that the order in which nodes are
removed does not matter. Setting a text removes the children of a node. -/

namespace TemplateTree.Dom

variable {dom before middle after first second : Dom} {ids more : List NodeId}
  {id start low high : NodeId}

/-- The walks from several nodes, one after the other. -/
def walkAll (dom : Dom) (starts : List NodeId) : List NodeId :=
  starts.flatMap dom.walk

theorem mem_walkAll : id ∈ dom.walkAll ids ↔ ∃ start ∈ ids, id ∈ dom.walk start :=
  List.mem_flatMap

theorem walkAll_singleton (dom : Dom) (start : NodeId) : dom.walkAll [start] = dom.walk start :=
  List.flatMap_singleton ..

namespace IsForest

/-- Whole trees are closed downwards. -/
theorem mem_walkAll_of_below (hf : dom.IsForest) (h : high ∈ dom.walkAll ids)
    (hb : dom.Below low high) : low ∈ dom.walkAll ids := by
  obtain ⟨root, hr, hw⟩ := mem_walkAll.mp h
  obtain ⟨hl, habove⟩ := hf.mem_walk_iff.mp hw
  exact mem_walkAll.mpr ⟨root, hr, hf.mem_walk_iff.mpr ⟨hl, hb.trans habove⟩⟩

theorem walk_modifyElement (hf : dom.IsForest) (id : NodeId) (change : Element → Element) :
    (dom.modifyElement id change).walk = dom.walk := by
  funext start
  exact hf.walk_congr (hf.modifyElement id change) (fun _ _ _ _ => trivial) (fun _ _ => rfl)
    trivial (dom.contains_modifyElement id change start)

/-- The tree of a node stays when the node is taken off its parent. -/
theorem mem_walk_detach (hf : dom.IsForest) :
    low ∈ (dom.detach id).walk id ↔ low ∈ dom.walk id := by
  rw [(hf.detach id).mem_walk_iff, hf.mem_walk_iff, contains_detach]
  refine and_congr_right fun _ => ⟨below_of_below_detach, fun hb => ?_⟩
  induction hb using Relation.ReflTransGen.head_induction_on with
  | refl => exact .refl
  | @head low above hp hb ih =>
      refine .head ?_ ih
      have hne : low ≠ id := by
        rintro rfl
        exact hf.acyclic low (Relation.TransGen.head' hp hb)
      rw [ChildOf, parent?_detach, if_neg hne]
      exact hp

end IsForest

/-! ## Pruned forests -/

/-- The nodes `ids` and all below them are gone, and all else is as before. -/
structure Pruned (ids : List NodeId) (before after : Dom) : Prop where
  isForest : after.IsForest
  element? : ∀ id, after.element? id =
    if id ∈ before.walkAll ids then none else before.element? id
  parent? : ∀ id, after.parent? id =
    if id ∈ before.walkAll ids then none else before.parent? id
  children : ∀ id, after.children id =
    if id ∈ before.walkAll ids then [] else (before.children id).filter (· ∉ ids)

theorem filter_notMem_singleton (list : List NodeId) (id : NodeId) :
    list.filter (· ∉ [id]) = list.filter (· != id) := by
  congr 1
  funext other
  simp [bne, BEq.beq]

namespace Pruned

theorem refl (hf : dom.IsForest) : Pruned [] dom dom where
  isForest := hf
  element? id := by simp [walkAll]
  parent? id := by simp [walkAll]
  children id := by simp [walkAll]

theorem contains (h : Pruned ids before after) :
    after.contains id ↔ before.contains id ∧ id ∉ before.walkAll ids := by
  rw [Dom.contains, h.element?, Dom.contains]
  split
  · rename_i hgone
    simp only [Option.isSome_none, Bool.false_eq_true, hgone, not_true_eq_false, and_false]
  · rename_i hkept
    exact (and_iff_left hkept).symm

/-- A tree loses the nodes that are gone. -/
theorem mem_walk (hf : before.IsForest) (h : Pruned ids before after) :
    id ∈ after.walk start ↔ id ∈ before.walk start ∧ id ∉ before.walkAll ids := by
  rw [h.isForest.mem_walk_iff, hf.mem_walk_iff]
  constructor
  · rintro ⟨hl, hb⟩
    have hlive := h.isForest.below_live hb hl
    refine ⟨⟨(h.contains.mp hl).1, ?_⟩, (h.contains.mp hlive).2⟩
    refine Relation.ReflTransGen.mono ?_ _ _ hb
    intro child parent hp
    rw [ChildOf, h.parent?] at hp
    split at hp
    · cases hp
    · exact hp
  · rintro ⟨⟨hl, hb⟩, hid⟩
    refine ⟨h.contains.mpr ⟨hl, fun hs => hid (hf.mem_walkAll_of_below hs hb)⟩, ?_⟩
    induction hb using Relation.ReflTransGen.head_induction_on with
    | refl => exact .refl
    | head hp _ ih =>
        refine .head ?_ (ih fun hs => hid (hf.mem_walkAll_of_below hs (.single hp)))
        rw [ChildOf, h.parent?, if_neg hid]
        exact hp

/-- Whole trees lose the nodes that are gone. -/
theorem mem_walkAll_iff (hf : before.IsForest) (h : Pruned ids before after) :
    id ∈ after.walkAll more ↔ id ∈ before.walkAll more ∧ id ∉ before.walkAll ids := by
  rw [mem_walkAll, mem_walkAll]
  simp only [h.mem_walk hf]
  exact ⟨fun ⟨start, hs, hw, hid⟩ => ⟨⟨start, hs, hw⟩, hid⟩,
    fun ⟨⟨start, hs, hw⟩, hid⟩ => ⟨start, hs, hw, hid⟩⟩

theorem trans (hf : before.IsForest) (h₁ : Pruned ids before middle)
    (h₂ : Pruned more middle after) : Pruned (ids ++ more) before after := by
  have hgone : ∀ id, id ∈ before.walkAll (ids ++ more) ↔
      id ∈ before.walkAll ids ∨ id ∈ middle.walkAll more := by
    intro id
    rw [h₁.mem_walkAll_iff hf, walkAll, List.flatMap_append, List.mem_append]
    by_cases hi : id ∈ before.walkAll ids
    · exact ⟨fun _ => .inl hi, fun _ => .inl hi⟩
    · exact or_congr_right (and_iff_left hi).symm
  refine ⟨h₂.isForest, fun id => ?_, fun id => ?_, fun id => ?_⟩
  · rw [h₂.element?, h₁.element?]
    by_cases hi : id ∈ before.walkAll ids <;>
      by_cases hm : id ∈ middle.walkAll more <;> simp [hgone, hi, hm]
  · rw [h₂.parent?, h₁.parent?]
    by_cases hi : id ∈ before.walkAll ids <;>
      by_cases hm : id ∈ middle.walkAll more <;> simp [hgone, hi, hm]
  · rw [h₂.children, h₁.children]
    by_cases hi : id ∈ before.walkAll ids <;>
      by_cases hm : id ∈ middle.walkAll more <;>
      simp [hgone, hi, hm, List.filter_filter, Bool.and_comm]

theorem congr (h : Pruned ids before after) (hids : ∀ id, id ∈ ids ↔ id ∈ more) :
    Pruned more before after := by
  have hgone : ∀ id, id ∈ before.walkAll ids ↔ id ∈ before.walkAll more := by
    intro id
    simp only [mem_walkAll, hids]
  refine ⟨h.isForest, fun id => ?_, fun id => ?_, fun id => ?_⟩
  · simp only [h.element?, hgone]
  · simp only [h.parent?, hgone]
  · simp only [h.children, hgone, hids]

/-- What has been removed decides what is left. -/
theorem agree (h₁ : Pruned ids before first) (h₂ : Pruned ids before second) :
    Agree (fun _ => True) first second where
  element? _ := by rw [h₁.element?, h₂.element?]
  parent? _ := by rw [h₁.parent?, h₂.parent?]
  children _ := by rw [h₁.children, h₂.children]

theorem remove (hf : dom.IsForest) (id : NodeId) : Pruned [id] dom (dom.remove id).2 := by
  unfold Dom.remove
  cases he : dom.element? id with
  | none =>
      have hl : dom.contains id = false := by rw [Dom.contains, he]; rfl
      have hgone : dom.walkAll [id] = [] := by
        rw [walkAll_singleton, walk_of_not_contains hl]
      refine ⟨hf, fun other => ?_, fun other => ?_, fun other => ?_⟩
      · simp [hgone]
      · simp [hgone]
      · have hp : dom.parent? id ≠ some other := by simp [hf.parent?_of_not_contains hl]
        rw [filter_notMem_singleton, hf.filter_children_of_parent?_ne hp, hgone,
          if_neg List.not_mem_nil]
  | some element =>
      have hl : dom.contains id := by rw [Dom.contains, he]; rfl
      have hid : id ∈ dom.walk id := (hf.mem_walk hl).mpr .refl
      refine ⟨?_, fun other => ?_, fun other => ?_, fun other => ?_⟩
      · exact (hf.detach id).erase_walk (by simpa using hl) (by simp)
      · simp only [walkAll_singleton, element?_foldl_erase, hf.mem_walk_detach, element?_detach]
      · simp only [walkAll_singleton, parent?_foldl_erase, hf.mem_walk_detach, parent?_detach]
        by_cases ho : other = id <;> simp [ho, hid]
      · simp only [walkAll_singleton, IsForest.children_foldl_erase, hf.mem_walk_detach,
          hf.children_detach, filter_notMem_singleton]

theorem removeAll (hf : dom.IsForest) (ids : List NodeId) :
    Pruned ids dom (ids.foldl (fun dom id => (dom.remove id).2) dom) := by
  induction ids generalizing dom with
  | nil => exact refl hf
  | cons id rest ih => exact (remove hf id).trans hf (ih (hf.remove id))

theorem size (hf : before.IsForest) (h : Pruned ids before after)
    (hn : (before.walkAll ids).Nodup) :
    after.size + (before.walkAll ids).length = before.size := by
  have hperm : (after.nodes ++ before.walkAll ids).Perm before.nodes := by
    have hnodup : (after.nodes ++ before.walkAll ids).Nodup := by
      refine after.nodes_nodup.append hn ?_
      intro id hl
      exact (h.contains.mp (mem_nodes.mp hl)).2
    rw [List.perm_ext_iff_of_nodup hnodup before.nodes_nodup]
    intro id
    rw [List.mem_append, mem_nodes, mem_nodes, h.contains]
    constructor
    · rintro (⟨hl, -⟩ | hgone)
      · exact hl
      · obtain ⟨root, -, hw⟩ := mem_walkAll.mp hgone
        exact hf.live_of_mem_walk hw
    · intro hl
      by_cases hgone : id ∈ before.walkAll ids
      · exact .inr hgone
      · exact .inl ⟨hl, hgone⟩
  rw [← length_nodes, ← length_nodes, ← List.length_append, hperm.length_eq]

end Pruned

/-! ## Removing one node -/

namespace IsForest

theorem size_remove (hf : dom.IsForest) (id : NodeId) :
    (dom.remove id).2.size + (dom.walk id).length = dom.size := by
  have hn : (dom.walkAll [id]).Nodup := by
    rw [walkAll_singleton]
    exact hf.walk_nodup id
  rw [← dom.walkAll_singleton, (Pruned.remove hf id).size hf hn]

/-- The removed node leaves the list that it was in; all other lists stay. -/
theorem children_remove (hf : dom.IsForest) (hid : id ∉ dom.walk start) :
    (dom.remove start).2.children id = (dom.children id).filter (· != start) := by
  rw [(Pruned.remove hf start).children, walkAll_singleton, if_neg hid, filter_notMem_singleton]

theorem contains_remove (hf : dom.IsForest) :
    (dom.remove start).2.contains id ↔ dom.contains id ∧ id ∉ dom.walk start := by
  rw [(Pruned.remove hf start).contains, walkAll_singleton]

theorem remove_comm (hf : dom.IsForest) (first second : NodeId) :
    Agree (fun _ => True) ((dom.remove first).2.remove second).2
      ((dom.remove second).2.remove first).2 := by
  have h₁ := (Pruned.remove hf first).trans hf (.remove (hf.remove first) second)
  have h₂ := (Pruned.remove hf second).trans hf (.remove (hf.remove second) first)
  exact h₁.agree (h₂.congr fun id => by simp [or_comm])

/-! ## Setting a text -/

theorem mem_walkAll_children (hf : dom.IsForest) (h : dom.contains start) :
    id ∈ dom.walkAll (dom.children start) ↔ id ∈ dom.walk start ∧ id ≠ start := by
  have hn := hf.walk_nodup start
  rw [hf.walk_eq h, List.nodup_cons] at hn
  rw [hf.walk_eq h, List.mem_cons, ← walkAll]
  constructor
  · intro hid
    refine ⟨.inr hid, ?_⟩
    rintro rfl
    exact hn.1 hid
  · rintro ⟨rfl | hid, hne⟩
    · exact absurd rfl hne
    · exact hid

theorem filter_children_of_ne (hf : dom.IsForest) (hne : id ≠ start) :
    (dom.children id).filter (· ∉ dom.children start) = dom.children id := by
  apply List.filter_eq_self.mpr
  intro child hc
  have hn : child ∉ dom.children start := fun hs =>
    hne (Option.some.inj ((hf.mem_children.mp hc).symm.trans (hf.mem_children.mp hs)))
  simpa using hn

/-- Setting a text changes the text of one element and removes what is below it. -/
theorem setText_eq_ok (hf : dom.IsForest) (h : dom.contains id) (text : String) :
    ∃ after, dom.setText id text = .ok after ∧
      Pruned (dom.children id) (dom.modifyElement id (·.withText text)) after := by
  rw [Dom.setText, if_pos h]
  exact ⟨_, rfl, .removeAll (hf.modifyElement id _) (dom.children id)⟩

section

variable {text : String} (hf : dom.IsForest) (hl : dom.contains start)

include hf hl

theorem not_mem_removed_setText (hid : id ∈ dom.walk start → id = start) :
    id ∉ (dom.modifyElement start (·.withText text)).walkAll (dom.children start) := by
  rw [walkAll, hf.walk_modifyElement, ← walkAll, hf.mem_walkAll_children hl]
  exact fun ⟨hw, hne⟩ => hne (hid hw)

variable (h : Pruned (dom.children start) (dom.modifyElement start (·.withText text)) after)

include h

theorem contains_setText :
    after.contains id ↔ dom.contains id ∧ (id ∈ dom.walk start → id = start) := by
  rw [h.contains, contains_modifyElement, walkAll, hf.walk_modifyElement, ← walkAll,
    hf.mem_walkAll_children hl, not_and_not_right]

variable (hid : id ∈ dom.walk start → id = start)

include hid

theorem element?_setText :
    after.element? id =
      if id = start then (dom.element? start).map (·.withText text) else dom.element? id := by
  rw [h.element?, if_neg (hf.not_mem_removed_setText hl hid), element?_modifyElement]

theorem parent?_setText : after.parent? id = dom.parent? id := by
  rw [h.parent?, if_neg (hf.not_mem_removed_setText hl hid), parent?_modifyElement]

theorem children_setText :
    after.children id = if id = start then [] else dom.children id := by
  rw [h.children, if_neg (hf.not_mem_removed_setText hl hid), children_modifyElement]
  split
  · subst id
    simp
  · rename_i hne
    exact hf.filter_children_of_ne hne

end

end IsForest

/-- Removing a node takes its walk out of a forest and the node out of the list that it was in;
setting a text takes out what is strictly below the node. All else stays, nothing happens for a
node that is gone, and two nodes can be removed in either order. -/
theorem remove_takes_walk (hdom : dom.Reachable) :
    (∀ id, dom.contains id = false → dom.remove id = (none, dom)) ∧
      (∀ id element, dom.element? id = some element →
        let run := dom.remove id
        run.1 = some element ∧
          (∀ other, run.2.contains other ↔ dom.contains other ∧ other ∉ dom.walk id) ∧
          run.2.size + (dom.walk id).length = dom.size ∧
          ∀ other, run.2.contains other →
            run.2.element? other = dom.element? other ∧ run.2.parent? other = dom.parent? other ∧
            (dom.parent? id = some other →
              run.2.children other = (dom.children other).filter (· != id)) ∧
            (dom.parent? id ≠ some other → run.2.children other = dom.children other)) ∧
      (∀ id text, dom.contains id = false →
        (Target.setText id text : Action Dom DomFault Unit).run.run dom =
          (.error .nodeNotFound, dom)) ∧
      (∀ id text element, dom.element? id = some element →
        let run := (Target.setText id text : Action Dom DomFault Unit).run.run dom
        run.1 = .ok () ∧
          (∀ other, run.2.contains other ↔
            dom.contains other ∧ (other ∈ dom.walk id → other = id)) ∧
          run.2.element? id = some { element with text := some text } ∧
          run.2.parent? id = dom.parent? id ∧ run.2.children id = [] ∧
          ∀ other, other ∉ dom.walk id →
            run.2.element? other = dom.element? other ∧ run.2.parent? other = dom.parent? other ∧
            run.2.children other = dom.children other) ∧
      ∀ first second,
        let after := ((dom.remove first).2.remove second).2
        let after' := ((dom.remove second).2.remove first).2
        ∀ id, after.contains id = after'.contains id ∧ after.element? id = after'.element? id ∧
          after.parent? id = after'.parent? id ∧ after.children id = after'.children id := by
  have hf : dom.IsForest := hdom.isForest
  refine ⟨fun id hl => ?_, fun id element he => ?_, fun id text hl => ?_,
    fun id text element he => ?_, fun first second => ?_⟩
  · have he : dom.element? id = none := by simpa [contains] using hl
    rw [remove, he]
  · have h := Pruned.remove hf id
    refine ⟨by simp [remove, he], fun _ => hf.contains_remove, hf.size_remove id, ?_⟩
    intro other hl
    have hw : other ∉ dom.walk id := (hf.contains_remove.mp hl).2
    have hgone : other ∉ dom.walkAll [id] := by rwa [walkAll_singleton]
    refine ⟨by rw [h.element?, if_neg hgone], by rw [h.parent?, if_neg hgone],
      fun _ => hf.children_remove hw, fun hp => ?_⟩
    rw [hf.children_remove hw, hf.filter_children_of_parent?_ne hp]
  · show (step (·.setText id text)).run.run dom = _
    simp [run_step, setText, hl]
  · have hl : dom.contains id := by rw [contains, he]; rfl
    obtain ⟨after, hok, h⟩ := hf.setText_eq_ok hl text
    have hrun : (Target.setText id text : Action Dom DomFault Unit).run.run dom =
        (.ok (), after) := run_step_of_ok hok
    have hid : id ∈ dom.walk id := (hf.mem_walk hl).mpr .refl
    have hself : id ∈ dom.walk id → id = id := fun _ => rfl
    rw [hrun]
    refine ⟨rfl, fun _ => hf.contains_setText hl h, ?_, hf.parent?_setText hl h hself, ?_, ?_⟩
    · rw [hf.element?_setText hl h hself, if_pos rfl, he]
      rfl
    · rw [hf.children_setText hl h hself, if_pos rfl]
    · intro other hw
      have ho : other ∈ dom.walk id → other = id := fun h => absurd h hw
      have hne : other ≠ id := fun heq => hw (heq ▸ hid)
      exact ⟨by rw [hf.element?_setText hl h ho, if_neg hne], hf.parent?_setText hl h ho,
        by rw [hf.children_setText hl h ho, if_neg hne]⟩
  · intro after after' id
    have h := hf.remove_comm first second
    exact ⟨(h.contains trivial).symm, (h.element? trivial).symm, (h.parent? trivial).symm,
      (h.children trivial).symm⟩

/-- An item goes with its link, a text takes the link away from its item, and an item and its link
can be removed in either order. -/
theorem remove_linkList :
    let run := (Target.setText ⟨2⟩ "home" : Action Dom DomFault Unit).run.run linkList
    let after := ((linkList.remove ⟨2⟩).2.remove ⟨3⟩).2
    let after' := ((linkList.remove ⟨3⟩).2.remove ⟨2⟩).2
    linkList.Reachable ∧ (linkList.remove ⟨2⟩).1 = some { tag := "li" } ∧
      (linkList.remove ⟨2⟩).2.size + 2 = 4 ∧ (linkList.remove ⟨2⟩).2.children ⟨0⟩ = [⟨4⟩] ∧
      run.1 = .ok () ∧ ¬ run.2.contains ⟨3⟩ ∧
      run.2.element? ⟨2⟩ = some { tag := "li", text := some "home" } ∧
      linkList.remove ⟨1⟩ = (none, linkList) ∧ after.children ⟨0⟩ = after'.children ⟨0⟩ := by
  intro run after after'
  have hdom : linkList.Reachable := ⟨_, rfl⟩
  obtain ⟨hgone, hremove, -, htext, hcomm⟩ := remove_takes_walk hdom
  obtain ⟨hdata, -, hsize, hrest⟩ := hremove ⟨2⟩ { tag := "li" } (by decide +kernel)
  obtain ⟨-, -, hlist, -⟩ := hrest ⟨0⟩ (by decide +kernel)
  obtain ⟨hok, hlive, helement, -⟩ := htext ⟨2⟩ "home" { tag := "li" } (by decide +kernel)
  have hlink : ¬ run.2.contains ⟨3⟩ := by
    rw [hlive]
    decide +kernel
  exact ⟨hdom, hdata, hsize, (hlist (by decide +kernel)).trans (by decide +kernel), hok, hlink,
    helement, hgone ⟨1⟩ (by decide +kernel), (hcomm ⟨2⟩ ⟨3⟩ ⟨0⟩).2.2.2⟩

end TemplateTree.Dom
