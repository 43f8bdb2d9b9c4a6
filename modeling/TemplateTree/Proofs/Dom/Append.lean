import TemplateTree.Proofs.Dom.Walk

/-! # Appending a node

The search for a cycle goes upwards from the parent. What it finds is that the parent lies in the
tree of the child. An append that is refused changes nothing, and one that is not changes the
child lists of two nodes at most. -/

namespace TemplateTree.Dom

variable {dom after : Dom} {parent child id : NodeId}

/-- Appending is refused for nodes that are gone and for a parent in the tree of the child. -/
theorem IsForest.appendChild_eq (hf : dom.IsForest) (parent child : NodeId) :
    dom.appendChild parent child =
      if ¬ (dom.contains parent ∧ dom.contains child) then .error .nodeNotFound
      else if parent ∈ dom.walk child then .error .hierarchyRequest
      else .ok ((dom.detach child).attach parent child) := by
  unfold Dom.appendChild
  by_cases hp : dom.contains parent
  · by_cases hc : dom.contains child
    · simp [hp, hc, hf.mem_walk hc, hf.below_iff]
    · simp [hc]
  · simp [hp]

theorem IsForest.run_appendChild (hf : dom.IsForest) (parent child : NodeId) :
    (Target.appendChild parent child : Action Dom DomFault Unit).run.run dom =
      if ¬ (dom.contains parent ∧ dom.contains child) then (.error .nodeNotFound, dom)
      else if parent ∈ dom.walk child then (.error .hierarchyRequest, dom)
      else (.ok (), (dom.detach child).attach parent child) := by
  show (step (·.appendChild parent child)).run.run dom = _
  rw [Dom.run_step, hf.appendChild_eq]
  split_ifs <;> rfl

section

variable (h : dom.appendChild parent child = .ok after)

include h

theorem element?_of_appendChild : after.element? = dom.element? := by
  obtain ⟨-, -, -, -, rfl⟩ := dom.appendChild_eq_ok h
  rw [element?_attach, element?_detach]

theorem parent?_of_appendChild (id : NodeId) :
    after.parent? id = if id = child then some parent else dom.parent? id := by
  obtain ⟨-, -, -, -, rfl⟩ := dom.appendChild_eq_ok h
  rw [parent?_attach, parent?_detach]
  split <;> rfl

/-- The child leaves the list that it was in and comes last in the list of its parent. -/
theorem IsForest.children_of_appendChild (hf : dom.IsForest) (id : NodeId) :
    after.children id =
      (dom.children id).filter (· != child) ++ if id = parent then [child] else [] := by
  obtain ⟨hp, -, -, -, rfl⟩ := dom.appendChild_eq_ok h
  have hlive : (dom.detach child).contains parent := by rw [contains_detach, hp]
  rw [(hf.detach child).children_attach hlive, hf.children_detach]
  split
  · rfl
  · rw [List.append_nil]

/-- Only a parent of before and the parent of now have other children. -/
theorem IsForest.children_of_appendChild_of_ne (hf : dom.IsForest) (hne : id ≠ parent)
    (hold : dom.parent? child ≠ some id) : after.children id = dom.children id := by
  rw [hf.children_of_appendChild h, if_neg hne, List.append_nil,
    hf.filter_children_of_parent?_ne hold]

theorem parent?_of_appendChild_again (hp : dom.parent? child = some parent) :
    after.parent? = dom.parent? := by
  funext id
  rw [parent?_of_appendChild h]
  split
  · rename_i hid
    rw [hid, hp]
  · rfl

/-- The tree of the child moves as it is. -/
theorem IsForest.walk_of_appendChild (hf : dom.IsForest) : after.walk child = dom.walk child := by
  obtain ⟨-, hc, hne, ha, -⟩ := dom.appendChild_eq_ok h
  have closed : ∀ id, dom.Below id child → ∀ below ∈ dom.children id, dom.Below below child :=
    fun id hb below hm => .head (hf.mem_children.mp hm) hb
  have hchildren : ∀ id, dom.Below id child → after.children id = dom.children id := by
    intro id hb
    refine hf.children_of_appendChild_of_ne h ?_ ?_
    · rintro rfl
      exact hf.not_below hne ha hb
    · exact fun hold => hf.acyclic child (Relation.TransGen.head' hold hb)
  refine hf.walk_congr (hf.appendChild h) closed hchildren .refl ?_
  rw [contains, contains, element?_of_appendChild h]

end

/-- Exactly the nodes that are gone and the parents in the tree of the child are refused, and
then nothing changes. Otherwise the child comes last below its parent, with its tree, and all
else stays as it was. -/
theorem appendChild_decided (hdom : dom.Reachable) (parent child : NodeId) :
    let live := dom.contains parent ∧ dom.contains child
    let run := (Target.appendChild parent child : Action Dom DomFault Unit).run.run dom
    (run.1 = .error .nodeNotFound ↔ ¬ live) ∧
      (run.1 = .error .hierarchyRequest ↔ live ∧ parent ∈ dom.walk child) ∧
      (run.1 = .ok () ↔ live ∧ parent ∉ dom.walk child) ∧
      (∀ fault, run.1 = .error fault → run.2 = dom) ∧
      (run.1 = .ok () →
        run.2.parent? child = some parent ∧
        run.2.children parent = (dom.children parent).filter (· != child) ++ [child] ∧
        (∀ old, dom.parent? child = some old → old ≠ parent →
          run.2.children old = (dom.children old).filter (· != child)) ∧
        (∀ id, id ≠ parent → dom.parent? child ≠ some id →
          run.2.children id = dom.children id) ∧
        (∀ id, id ≠ child → run.2.parent? id = dom.parent? id) ∧
        (∀ id, run.2.element? id = dom.element? id) ∧
        run.2.walk child = dom.walk child ∧
        (dom.parent? child = some parent →
          (∀ id, run.2.parent? id = dom.parent? id) ∧
          ∀ id, id ≠ parent → run.2.children id = dom.children id)) := by
  intro live run
  have hf : dom.IsForest := hdom.isForest
  have hrun : run = _ := hf.run_appendChild parent child
  by_cases hlive : live
  · rw [if_neg (not_not.mpr hlive)] at hrun
    by_cases hw : parent ∈ dom.walk child
    · rw [if_pos hw] at hrun
      rw [hrun]
      simp [hlive, hw]
    · rw [if_neg hw] at hrun
      have hok : run.1 = .ok () := by rw [hrun]
      have h : dom.appendChild parent child = .ok run.2 := by
        rw [hf.appendChild_eq, if_neg (not_not.mpr hlive), if_neg hw, hrun]
      have hchildren := hf.children_of_appendChild h
      have hrest : ∀ id, id ≠ parent → dom.parent? child ≠ some id →
          run.2.children id = dom.children id := fun _ => hf.children_of_appendChild_of_ne h
      refine ⟨by simp [hok, hlive], by simp [hok, hw], by simp [hok, hlive, hw], by simp [hok],
        fun _ => ⟨?_, ?_, ?_, hrest, ?_, ?_, hf.walk_of_appendChild h, fun hp => ⟨?_, ?_⟩⟩⟩
      · rw [parent?_of_appendChild h, if_pos rfl]
      · rw [hchildren, if_pos rfl]
      · intro old _ hne
        rw [hchildren, if_neg hne, List.append_nil]
      · intro id hne
        rw [parent?_of_appendChild h, if_neg hne]
      · exact congrFun (element?_of_appendChild h)
      · exact congrFun (parent?_of_appendChild_again h hp)
      · intro id hne
        refine hrest id hne fun hold => hne ?_
        exact Option.some.inj (hold.symm.trans hp)
  · rw [if_pos hlive] at hrun
    rw [hrun]
    simp [hlive]

/-- The second item becomes the last one, and the list cannot go below its own link. -/
theorem appendChild_linkList :
    let run parent child :=
      (Target.appendChild parent child : Action Dom DomFault Unit).run.run linkList
    linkList.Reachable ∧ (run ⟨0⟩ ⟨2⟩).1 = .ok () ∧
      (run ⟨0⟩ ⟨2⟩).2.children ⟨0⟩ = [⟨4⟩, ⟨2⟩] ∧ (run ⟨0⟩ ⟨2⟩).2.walk ⟨2⟩ = [⟨2⟩, ⟨3⟩] ∧
      run ⟨3⟩ ⟨0⟩ = (.error .hierarchyRequest, linkList) ∧
      run ⟨0⟩ ⟨1⟩ = (.error .nodeNotFound, linkList) := by
  intro run
  have hdom : linkList.Reachable := ⟨_, rfl⟩
  obtain ⟨-, -, hok, -, hmoved⟩ := appendChild_decided hdom ⟨0⟩ ⟨2⟩
  obtain ⟨-, hcycle, -, hkept, -⟩ := appendChild_decided hdom ⟨3⟩ ⟨0⟩
  obtain ⟨hgone, -, -, hkept', -⟩ := appendChild_decided hdom ⟨0⟩ ⟨1⟩
  have hok : (run ⟨0⟩ ⟨2⟩).1 = .ok () := hok.mpr (by decide +kernel)
  have hcycle : (run ⟨3⟩ ⟨0⟩).1 = .error .hierarchyRequest := hcycle.mpr (by decide +kernel)
  have hgone : (run ⟨0⟩ ⟨1⟩).1 = .error .nodeNotFound := hgone.mpr (by decide +kernel)
  obtain ⟨-, hchildren, -, -, -, -, hwalk, -⟩ := hmoved hok
  exact ⟨hdom, hok, hchildren.trans (by decide +kernel), hwalk.trans (by decide +kernel),
    Prod.ext hcycle (hkept _ hcycle), Prod.ext hgone (hkept' _ hgone)⟩

end TemplateTree.Dom
