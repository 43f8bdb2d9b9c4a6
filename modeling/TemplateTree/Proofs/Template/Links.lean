import TemplateTree.Proofs.Dom.Links
import TemplateTree.Proofs.Template.Parts

/-! # Links of templates

Which node of a forest stands for which part of a template. New elements get the next free ids
in document order, and every part below the root is linked to the element that it lies in. -/

namespace TemplateTree

/-- The node that stands for a template when the next new node has the index `next`. -/
def Template.nodeAt (next : Nat) : Template NodeId → NodeId
  | .element _ _ => ⟨next⟩
  | .node handle => handle

mutual

/-- The links of the parts below the root, in document order. -/
def Template.links (next : Nat) : Template NodeId → List Link
  | .element _ content => content.links ⟨next⟩ (next + 1)
  | .node _ => []

def Content.links (holder : NodeId) (next : Nat) : Content NodeId → List Link
  | .text _ => []
  | .bag ⟨_, templates⟩ => Template.linksOf holder next templates
  | .items templates => Template.linksOf holder next templates
  | .node handle => [⟨holder, handle⟩]

/-- The links of templates that lie in one element. -/
def Template.linksOf (holder : NodeId) (next : Nat) : List (Template NodeId) → List Link
  | [] => []
  | template :: rest =>
    ⟨holder, template.nodeAt next⟩ ::
      (template.links next ++ Template.linksOf holder (next + template.count) rest)

end

/-! ## Linked nodes -/

/-- So many new ids from `next` on. -/
def newIds (next count : Nat) : List NodeId :=
  (List.range' next count).map NodeId.mk

theorem newIds_succ (next count : Nat) :
    newIds next (count + 1) = ⟨next⟩ :: newIds (next + 1) count := rfl

theorem newIds_add (next first second : Nat) :
    newIds next (first + second) = newIds next first ++ newIds (next + first) second := by
  rw [newIds, ← List.range'_append_1, List.map_append]
  rfl

theorem mem_newIds {next count : Nat} {id : NodeId} :
    id ∈ newIds next count ↔ next ≤ id.index ∧ id.index < next + count := by
  obtain ⟨index⟩ := id
  simp [newIds, List.mem_range'_1]

theorem nodup_newIds (next count : Nat) : (newIds next count).Nodup :=
  (List.nodup_range' ..).map fun _ _ h => congrArg NodeId.index h

-- By induction on the template. New nodes are linked in the order of their ids, embedded ones in
-- between, so that lists of nodes agree up to order.
mutual

/-- The root and the linked nodes are the embedded nodes and the new ones. -/
theorem Template.nodes_perm : ∀ (template : Template NodeId) (next : Nat),
    (template.nodeAt next :: (template.links next).map Link.child).Perm
      (template.handles ++ newIds next template.count)
  | .element _ content, next => by
      rw [Template.nodeAt, Template.links, Template.handles, Template.count, newIds_succ]
      exact ((Content.linked_perm content ⟨next⟩ (next + 1)).cons _).trans
        List.perm_middle.symm
  | .node handle, _ => .refl [handle]

theorem Content.linked_perm : ∀ (content : Content NodeId) (holder : NodeId) (next : Nat),
    ((content.links holder next).map Link.child).Perm
      (content.handles ++ newIds next content.count)
  | .text _, _, _ => .refl []
  | .bag ⟨_, templates⟩, holder, next => Template.linkedOf_perm templates holder next
  | .items templates, holder, next => Template.linkedOf_perm templates holder next
  | .node handle, _, _ => .refl [handle]

theorem Template.linkedOf_perm : ∀ (templates : List (Template NodeId)) (holder : NodeId)
    (next : Nat), ((Template.linksOf holder next templates).map Link.child).Perm
      (Template.handlesOf templates ++ newIds next (Template.countOf templates))
  | [], _, _ => .refl []
  | template :: rest, holder, next => by
      rw [Template.linksOf, Template.handlesOf, Template.countOf, newIds_add, List.map_cons,
        List.map_append, ← List.cons_append]
      refine ((Template.nodes_perm template next).append
        (Template.linkedOf_perm rest holder (next + template.count))).trans ?_
      rw [List.append_assoc, List.append_assoc]
      refine List.Perm.append_left _ ?_
      rw [← List.append_assoc, ← List.append_assoc]
      exact List.perm_append_comm.append_right _

end

theorem Template.linked_perm (template : Template NodeId) (next : Nat) :
    ((template.links next).map Link.child).Perm
      (template.embedded ++ newIds (next + 1) (template.count - 1)) := by
  cases template with
  | element text content => exact Content.linked_perm content ⟨next⟩ (next + 1)
  | node handle => exact .refl []

theorem Template.mem_links (template : Template NodeId) {next : Nat} {id : NodeId}
    (h : id ∈ (template.links next).map Link.child) :
    id ∈ template.embedded ∨ next < id.index := by
  rw [(template.linked_perm next).mem_iff, List.mem_append, mem_newIds] at h
  exact h.imp_right And.left

/-! ## Holders -/

mutual

/-- New elements alone get links. -/
theorem Template.holder_mem : ∀ (template : Template NodeId) (next : Nat),
    ∀ link ∈ template.links next, link.holder ∈ newIds next template.count
  | .element _ content, next => by
      intro link hl
      rw [Template.count, newIds_succ, List.mem_cons]
      exact Content.holder_mem content ⟨next⟩ (next + 1) link hl
  | .node _, _ => by simp [Template.links]

theorem Content.holder_mem : ∀ (content : Content NodeId) (holder : NodeId) (next : Nat),
    ∀ link ∈ content.links holder next,
      link.holder = holder ∨ link.holder ∈ newIds next content.count
  | .text _, _, _ => by simp [Content.links]
  | .bag ⟨_, templates⟩, holder, next => Template.holderOf_mem templates holder next
  | .items templates, holder, next => Template.holderOf_mem templates holder next
  | .node _, _, _ => by simp [Content.links]

theorem Template.holderOf_mem : ∀ (templates : List (Template NodeId)) (holder : NodeId)
    (next : Nat), ∀ link ∈ Template.linksOf holder next templates,
      link.holder = holder ∨ link.holder ∈ newIds next (Template.countOf templates)
  | [], _, _ => by simp [Template.linksOf]
  | template :: rest, holder, next => by
      intro link hl
      rw [Template.countOf, newIds_add, List.mem_append]
      rw [Template.linksOf, List.mem_cons, List.mem_append] at hl
      rcases hl with rfl | hl | hl
      · exact .inl rfl
      · exact .inr (.inl (Template.holder_mem template next link hl))
      · exact (Template.holderOf_mem rest holder (next + template.count) link hl).imp_right .inr

end

/-! ## Children -/

section

variable {item : Template NodeId} {rest : List (Template NodeId)} {holder id : NodeId} {next : Nat}

theorem Template.below_links_of_notMem (h : id ∉ newIds next item.count) :
    Link.below (item.links next) id = [] := by
  apply Link.below_eq_nil
  rintro link hl rfl
  exact h (item.holder_mem next link hl)

theorem Template.below_linksOf_of_notMem (hne : id ≠ holder)
    (h : id ∉ newIds next (Template.countOf rest)) :
    Link.below (Template.linksOf holder next rest) id = [] := by
  apply Link.below_eq_nil
  rintro link hl rfl
  rcases Template.holderOf_mem rest holder next link hl with hholder | hnew
  · exact hne hholder
  · exact h hnew

theorem Template.below_linksOf_cons (item : Template NodeId) (rest : List (Template NodeId))
    (holder : NodeId) (next : Nat) (id : NodeId) :
    Link.below (Template.linksOf holder next (item :: rest)) id =
      (if id = holder then [item.nodeAt next] else []) ++ (Link.below (item.links next) id ++
        Link.below (Template.linksOf holder (next + item.count) rest) id) := by
  rw [← Link.below_append, ← Link.below_singleton, ← Link.below_append]
  rfl

/-- The first item comes first below the holder, and what lies in it does not. -/
theorem Template.below_linksOf_holder (hlt : holder.index < next) :
    Link.below (Template.linksOf holder next (item :: rest)) holder =
      item.nodeAt next :: Link.below (Template.linksOf holder (next + item.count) rest) holder := by
  have hnot : holder ∉ newIds next item.count := by
    rw [mem_newIds]
    omega
  rw [Template.below_linksOf_cons, if_pos rfl, Template.below_links_of_notMem hnot]
  rfl

/-- Only an item itself puts nodes below its elements. -/
theorem Template.below_linksOf_left (hlt : holder.index < next)
    (h : id ∈ newIds next item.count) :
    Link.below (Template.linksOf holder next (item :: rest)) id =
      Link.below (item.links next) id := by
  rw [mem_newIds] at h
  have hne : id ≠ holder := by
    rintro rfl
    omega
  have hnot : id ∉ newIds (next + item.count) (Template.countOf rest) := by
    rw [mem_newIds]
    omega
  rw [Template.below_linksOf_cons, if_neg hne, Template.below_linksOf_of_notMem hne hnot,
    List.append_nil, List.nil_append]

theorem Template.below_linksOf_right (hlt : holder.index < next)
    (h : next + item.count ≤ id.index) :
    Link.below (Template.linksOf holder next (item :: rest)) id =
      Link.below (Template.linksOf holder (next + item.count) rest) id := by
  have hne : id ≠ holder := by
    rintro rfl
    omega
  have hnot : id ∉ newIds next item.count := by
    rw [mem_newIds]
    omega
  rw [Template.below_linksOf_cons, if_neg hne, Template.below_links_of_notMem hnot]
  rfl

end

/-! ## Older nodes -/

section

variable {template : Template NodeId} {next : Nat} {id : NodeId}

/-- Of the nodes of before, exactly the embedded ones are linked. -/
theorem Template.mem_links_iff_of_lt (h : id.index < next) :
    id ∈ (template.links next).map Link.child ↔ id ∈ template.embedded := by
  have hnew : id ∉ newIds (next + 1) (template.count - 1) := by
    rw [mem_newIds]
    omega
  rw [(template.linked_perm next).mem_iff, List.mem_append, or_iff_left hnew]

theorem Template.below_links_of_lt (h : id.index < next) :
    Link.below (Link.lasting (template.links next)) id = [] := by
  apply Link.below_lasting_eq_nil
  rintro link hl rfl
  have hge := (mem_newIds.mp (template.holder_mem next link hl)).1
  omega

end

end TemplateTree
