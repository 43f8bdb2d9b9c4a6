import TemplateTree.Dom.Html
import TemplateTree.Dom.Query
import TemplateTree.Proofs.Dom.Append
import TemplateTree.Proofs.Dom.Removal

/-! # What is seen of a tree

Walks, HTML, texts and selections read the elements and the children of the nodes in one tree
and nothing else. A change that does not reach into the tree leaves them as they were, wherever
the tree itself moves. -/

namespace TemplateTree.Dom

variable {dom before middle after : Dom} {start id child parent : NodeId} {ids : List NodeId}

namespace IsForest

/-- Neither the top of a tree nor a node outside it has its parent in the tree. -/
theorem parent?_ne_of_mem_walk (hf : dom.IsForest) (h : id ∈ dom.walk start)
    (hc : child ∈ dom.walk start → child = start) : dom.parent? child ≠ some id := by
  intro hp
  obtain rfl := hc (hf.mem_walk_of_mem_children h (hf.mem_children.mpr hp))
  exact hf.acyclic child (Relation.TransGen.head' hp (hf.mem_walk_iff.mp h).2)

/-- Two trees share no node unless the top of one is in the other. -/
theorem walk_disjoint (hf : dom.IsForest) (hid : id ∉ dom.walk start)
    (ha : id ∉ dom.ancestors start) : ∀ low ∈ dom.walk start, low ∉ dom.walk id := by
  intro low hs hw
  obtain ⟨hl, hb⟩ := hf.mem_walk_iff.mp hs
  rcases below_or_below hb (hf.mem_walk_iff.mp hw).2 with hup | hdown
  · rcases hf.below_iff.mp hup with rfl | habove
    · exact hid (hf.mem_walk_self hl)
    · exact ha habove
  · exact hid (hf.mem_walk_iff.mpr ⟨hl, hdown⟩)

end IsForest

/-! ## The same tree -/

/-- A node that is live in both forests has the same tree in both, with the same elements. -/
structure SameTree (start : NodeId) (before after : Dom) : Prop where
  isForest : after.IsForest
  live : after.contains start
  walk : after.walk start = before.walk start
  element? : ∀ {id}, id ∈ before.walk start → after.element? id = before.element? id
  children : ∀ {id}, id ∈ before.walk start → after.children id = before.children id

namespace SameTree

theorem refl (hf : dom.IsForest) (hl : dom.contains start) : SameTree start dom dom :=
  ⟨hf, hl, rfl, fun _ => rfl, fun _ => rfl⟩

theorem trans (h₁ : SameTree start before middle) (h₂ : SameTree start middle after) :
    SameTree start before after where
  isForest := h₂.isForest
  live := h₂.live
  walk := h₂.walk.trans h₁.walk
  element? hid := (h₂.element? (h₁.walk ▸ hid)).trans (h₁.element? hid)
  children hid := (h₂.children (h₁.walk ▸ hid)).trans (h₁.children hid)

/-- What is the same at every node of a tree is the same of its walk. -/
theorem of_nodes (hf : before.IsForest) (ha : after.IsForest) (hl : before.contains start)
    (helement : ∀ id ∈ before.walk start, after.element? id = before.element? id)
    (hchildren : ∀ id ∈ before.walk start, after.children id = before.children id) :
    SameTree start before after := by
  have hstart := hf.mem_walk_self hl
  have hlive : after.contains start = before.contains start := by
    rw [contains, contains, helement start hstart]
  have hwalk := hf.walk_congr ha (fun _ hid _ => hf.mem_walk_of_mem_children hid) hchildren
    hstart hlive
  exact ⟨ha, hlive.trans hl, hwalk, helement _, hchildren _⟩

theorem of_agree (hf : before.IsForest) (ha : after.IsForest) (hl : before.contains start)
    (h : Agree (· ∈ before.walk start) before after) : SameTree start before after :=
  of_nodes hf ha hl (fun _ => h.element?) fun _ => h.children

/-! ## What is seen -/

section

variable (h : SameTree start before after)

include h

/-- The HTML of every node in the tree. -/
theorem html_eq (hf : before.IsForest) (hid : id ∈ before.walk start) :
    after.html id = before.html id := by
  refine hf.fold_congr h.isForest (fun _ hid _ => hf.mem_walk_of_mem_children hid)
    (fun _ => h.children) ?_ hid
  intro node hn
  funext inner
  rw [h.element? hn]

theorem innerHtml_eq (hf : before.IsForest) (hid : id ∈ before.walk start) :
    after.innerHtml id = before.innerHtml id := by
  have hinner : (before.children id).map after.html = (before.children id).map before.html :=
    List.map_congr_left fun _ hc => h.html_eq hf (hf.mem_walk_of_mem_children hid hc)
  rw [innerHtml, innerHtml, h.element? hid, h.children hid, hinner]

theorem textContent_eq : after.textContent start = before.textContent start := by
  rw [textContent, textContent, h.walk]
  congr 1
  apply List.filterMap_congr
  intro id hid
  rw [h.element? hid]

theorem select_eq (selector : String) :
    after.select start selector = before.select start selector := by
  rw [select, select, h.walk]
  apply List.filter_congr
  intro id hid
  rw [h.element? hid]

end

/-! ## Changes outside a tree -/

section

variable (hf : dom.IsForest) (hl : dom.contains start)

include hf hl

theorem insert (element : Element) : SameTree start dom (dom.insert element).2 :=
  .of_agree hf (hf.insert element) hl <|
    (Agree.insert hf element).mono fun hid => dom.index_lt_issued (hf.live_of_mem_walk hid)

theorem modifyElement (hid : id ∉ dom.walk start) (change : Element → Element) :
    SameTree start dom (dom.modifyElement id change) := by
  refine .of_agree hf (hf.modifyElement id change) hl ((Agree.modifyElement dom id change).mono ?_)
  rintro other ho rfl
  exact hid ho

/-- The tree as a whole can be taken off its parent. -/
theorem detach (hid : id ∈ dom.walk start → id = start) :
    SameTree start dom (dom.detach id) := by
  refine .of_nodes hf (hf.detach id) hl (fun _ _ => by rw [element?_detach]) ?_
  intro other ho
  rw [hf.children_detach, hf.filter_children_of_parent?_ne (hf.parent?_ne_of_mem_walk ho hid)]

/-- The tree as a whole can be appended, too. -/
theorem appendChild (h : dom.appendChild parent child = .ok after)
    (hp : child ≠ start → parent ∉ dom.walk start) (hc : child ∈ dom.walk start → child = start) :
    SameTree start dom after := by
  have hparent : parent ∉ dom.walk start := by
    by_cases hs : child = start
    · subst hs
      obtain ⟨-, -, hne, habove, -⟩ := dom.appendChild_eq_ok h
      rw [hf.mem_walk hl]
      exact hf.not_below hne habove
    · exact hp hs
  refine .of_nodes hf (hf.appendChild h) hl (fun _ _ => by rw [element?_of_appendChild h]) ?_
  intro other ho
  refine hf.children_of_appendChild_of_ne h ?_ (hf.parent?_ne_of_mem_walk ho hc)
  rintro rfl
  exact hparent ho

theorem pruned (h : Pruned ids dom after) (hout : ∀ id ∈ dom.walk start, id ∉ dom.walkAll ids) :
    SameTree start dom after := by
  refine .of_nodes hf h.isForest hl (fun id hid => by rw [h.element?, if_neg (hout id hid)]) ?_
  intro id hid
  rw [h.children, if_neg (hout id hid)]
  apply List.filter_eq_self.mpr
  intro child hc
  have hgone : child ∉ ids := fun hm =>
    hout child (hf.mem_walk_of_mem_children hid hc)
      (mem_walkAll.mpr ⟨child, hm, hf.mem_walk_self (hf.mem_children_live hc)⟩)
  simpa using hgone

variable (hid : id ∉ dom.walk start) (ha : id ∉ dom.ancestors start)

include hid ha

theorem remove : SameTree start dom (dom.remove id).2 := by
  refine pruned hf hl (Pruned.remove hf id) ?_
  rw [walkAll_singleton]
  exact hf.walk_disjoint hid ha

theorem setText {text : String} (h : dom.setText id text = .ok after) :
    SameTree start dom after := by
  have hlive : dom.contains id := by
    by_contra hn
    simp [Dom.setText, hn] at h
  obtain ⟨_, hok, hpruned⟩ := hf.setText_eq_ok hlive text
  cases hok.symm.trans h
  have hm := modifyElement hf hl hid (·.withText text)
  refine hm.trans (pruned hm.isForest hm.live hpruned ?_)
  rw [walkAll, hf.walk_modifyElement, ← walkAll]
  intro low hs hw
  exact hf.walk_disjoint hid ha low hs ((hf.mem_walkAll_children hlive).mp hw).1

end

end SameTree

end TemplateTree.Dom
