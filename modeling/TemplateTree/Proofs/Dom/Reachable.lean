import TemplateTree.Dom.Target
import TemplateTree.Proofs.Build.Invariant
import TemplateTree.Proofs.Dom.Changes

/-! # Reachable forests

Every forest that changes and builds lead to, from the empty one and in any order, has
consistent links. -/

namespace TemplateTree.Dom

/-! ## A forest as the target of a build -/

theorem run_createElement (dom : Dom) (tag : String) :
    (Target.createElement tag : Action Dom DomFault NodeId).run.run dom =
      if isValidTagName tag then (.ok ⟨dom.issued⟩, (dom.insert { tag }).2)
      else (.error (.invalidTagName tag), dom) := by
  by_cases h : isValidTagName tag <;>
    simp [Target.createElement, createElement, h, ExceptT.run_bind, StateT.run_bind] <;> rfl

/-- A step on a forest changes it only when it succeeds. -/
theorem run_step (dom : Dom) (change : Dom → Except DomFault Dom) :
    (step change).run.run dom =
      match change dom with
      | .ok after => (.ok (), after)
      | .error fault => (.error fault, dom) := by
  show (match change dom with
    | .ok after => (set after : Action Dom DomFault Unit)
    | .error fault => throw fault).run.run dom = _
  cases change dom <;> rfl

theorem run_step_of_ok {dom after : Dom} {change : Dom → Except DomFault Dom}
    (h : change dom = .ok after) : (step change).run.run dom = (.ok (), after) := by
  rw [run_step, h]

theorem IsForest.run_step {dom : Dom} {change : Dom → Except DomFault Dom} (hf : dom.IsForest)
    (h : ∀ {after}, change dom = .ok after → after.IsForest) :
    ((step change).run.run dom).2.IsForest := by
  rw [Dom.run_step]
  cases hc : change dom with
  | ok after => exact h hc
  | error fault => exact hf

theorem IsForest.setAttribute {dom after : Dom} {id : NodeId} {name value : String}
    (hf : dom.IsForest) (h : dom.setAttribute id name value = .ok after) : after.IsForest := by
  unfold Dom.setAttribute at h
  split at h
  · cases h
    exact hf.modifyElement id _
  · cases h

/-- The steps of a build leave a forest. -/
theorem isForest_keeps : Target.Keeps Dom IsForest where
  createElement dom tag hf := by
    rw [run_createElement]
    split
    · exact hf.insert _
    · exact hf
  setAttribute _ _ _ _ hf := hf.run_step hf.setAttribute
  setText _ _ _ hf := hf.run_step hf.setText
  appendChild _ _ _ hf := hf.run_step hf.appendChild

/-! ## Histories -/

/-- What a caller can do to a forest. -/
inductive Operation where
  | insert (element : Element)
  | create (tag : String)
  | append (parent child : NodeId)
  | detach (id : NodeId)
  | setText (id : NodeId) (text : String)
  | remove (id : NodeId)
  | edit (id : NodeId) (change : Element → Element)
  | build (config : BuildConfig) (template : Template NodeId)

/-- The forest after an operation. A refused one leaves it as it was, but for a build, which
keeps what it has made. -/
def apply (dom : Dom) : Operation → Dom
  | .insert element => (dom.insert element).2
  | .create tag =>
    match dom.createElement tag with
    | .ok (_, after) => after
    | .error _ => dom
  | .append parent child =>
    match dom.appendChild parent child with
    | .ok after => after
    | .error _ => dom
  | .detach id => dom.detach id
  | .setText id text =>
    match dom.setText id text with
    | .ok after => after
    | .error _ => dom
  | .remove id => (dom.remove id).2
  | .edit id change => dom.modifyElement id change
  | .build config template => (template.build config dom).target

def applyAll (dom : Dom) (operations : List Operation) : Dom :=
  operations.foldl apply dom

/-- A forest that operations lead to, from the empty one. -/
def Reachable (dom : Dom) : Prop :=
  ∃ operations, Dom.empty.applyAll operations = dom

theorem IsForest.apply {dom : Dom} (hf : dom.IsForest) (operation : Operation) :
    (dom.apply operation).IsForest := by
  cases operation with
  | insert element => exact hf.insert element
  | create tag =>
      by_cases h : isValidTagName tag
      · simpa [Dom.apply, createElement, h] using hf.insert _
      · simpa [Dom.apply, createElement, h] using hf
  | append parent child =>
      cases h : dom.appendChild parent child with
      | ok after => simpa [Dom.apply, h] using hf.appendChild h
      | error fault => simpa [Dom.apply, h] using hf
  | detach id => exact hf.detach id
  | setText id text =>
      cases h : dom.setText id text with
      | ok after => simpa [Dom.apply, h] using hf.setText h
      | error fault => simpa [Dom.apply, h] using hf
  | remove id => exact hf.remove id
  | edit id change => exact hf.modifyElement id change
  | build config template => exact template.build_keeps isForest_keeps config hf

theorem IsForest.applyAll {dom : Dom} (hf : dom.IsForest) (operations : List Operation) :
    (dom.applyAll operations).IsForest := by
  induction operations generalizing dom with
  | nil => exact hf
  | cons operation rest ih => exact ih (hf.apply operation)

theorem Reachable.isForest {dom : Dom} (h : dom.Reachable) : dom.IsForest := by
  obtain ⟨operations, rfl⟩ := h
  exact IsForest.empty.applyAll operations

/-- After any history the live nodes are those with a child list, links join live nodes, the
two directions of a link agree, no child occurs twice, and no node is above itself. -/
theorem links_consistent (operations : List Operation) :
    let dom := Dom.empty.applyAll operations
    (∀ id, (dom.childLists.get? id).isSome = dom.contains id) ∧
      (∀ child parent, dom.parents.get? child = some parent →
        dom.contains child ∧ dom.contains parent) ∧
      (∀ child parent, dom.parent? child = some parent ↔ child ∈ dom.children parent) ∧
      (∀ id, (dom.children id).Nodup) ∧
      ∀ id, ¬ Relation.TransGen (fun child parent => dom.parent? child = some parent) id id := by
  intro dom
  have hf : dom.IsForest := IsForest.empty.applyAll operations
  refine ⟨hf.childLists_isSome, ?_, ?_, hf.children_nodup, hf.acyclic⟩
  · exact fun child parent h => ⟨hf.child_live h, hf.parent_live h⟩
  · exact fun child parent => hf.mem_children.symm

end TemplateTree.Dom
