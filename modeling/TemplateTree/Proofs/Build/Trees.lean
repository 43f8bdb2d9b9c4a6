import TemplateTree.Proofs.Build.Moves

/-! # Trees around embedded nodes

A build that embeds nodes without parents, each of them once, takes their trees as they are into
the tree that the template describes. -/

namespace TemplateTree

namespace Dom

/-- The nodes from `next` on have these elements, and their children are those of these links. -/
structure Shows (dom : Dom) (next : Nat) (elements : List Element) (links : List Link) : Prop where
  element? : ∀ number < elements.length, dom.element? ⟨next + number⟩ = elements[number]?
  children : ∀ number < elements.length,
    dom.children ⟨next + number⟩ = Link.below links ⟨next + number⟩

namespace Shows

variable {dom : Dom} {next : Nat} {first second : List Element} {links firstLinks secondLinks : List Link}

/-- Nodes with links of their own can be looked at by themselves. -/
theorem left (h : dom.Shows next (first ++ second) links)
    (hlinks : ∀ id ∈ newIds next first.length, Link.below links id = Link.below firstLinks id) :
    dom.Shows next first firstLinks where
  element? number hn := by
    rw [h.element? number (by rw [List.length_append]; omega), List.getElem?_append_left hn]
  children number hn := by
    rw [h.children number (by rw [List.length_append]; omega), hlinks]
    exact mem_newIds.mpr ⟨Nat.le_add_right .., Nat.add_lt_add_left hn next⟩

theorem right (h : dom.Shows next (first ++ second) links)
    (hlinks : ∀ id ∈ newIds (next + first.length) second.length,
      Link.below links id = Link.below secondLinks id) :
    dom.Shows (next + first.length) second secondLinks where
  element? number hn := by
    rw [Nat.add_assoc, h.element? _ (by rw [List.length_append]; omega),
      List.getElem?_append_right (Nat.le_add_right ..), Nat.add_sub_cancel_left]
  children number hn := by
    rw [Nat.add_assoc, h.children _ (by rw [List.length_append]; omega), hlinks]
    exact mem_newIds.mpr ⟨by simp only; omega, by simp only; omega⟩

end Shows

end Dom

section

variable {dom : Dom} (config : BuildConfig) {held : NodeId → ElementTree}

-- By induction on the template. The nodes of an item have consecutive ids and links of their
-- own, so that what is shown of the whole is shown of each item.
mutual

theorem Template.tree?_of_shows : ∀ (item : Template NodeId) (depth next : Nat),
    dom.IsForest → (∀ id ∈ item.handles, dom.tree? id = some (held id)) →
    dom.Shows next (Part.elements (item.parts config.defaultTag depth)) (item.links next) →
    dom.tree? (item.nodeAt next) = some (item.tree config held)
  | .node handle, _, _, _, hh, _ => hh handle (List.mem_singleton_self handle)
  | .element text content, depth, next, hf, hh, hs => by
      rw [Template.parts, Part.elements_element] at hs
      have hfirst : 0 < (content.element (Selector.parseWith config.defaultTag text) ::
        Part.elements (content.parts config.defaultTag (depth + 1))).length := Nat.succ_pos _
      have helement := hs.element? 0 hfirst
      have hchildren := hs.children 0 hfirst
      rw [Nat.add_zero] at helement hchildren
      have hall : dom.Shows next ([content.element (Selector.parseWith config.defaultTag text)] ++
        Part.elements (content.parts config.defaultTag (depth + 1)))
          (content.links ⟨next⟩ (next + 1)) := hs
      have hc := Content.trees_of_shows content (depth + 1) (next + 1) ⟨next⟩
        (Nat.lt_succ_self next) hf hh (hall.right fun _ _ => rfl)
      rw [Template.nodeAt, hf.tree?_eq, helement, hchildren, Template.links, hc]
      rfl

theorem Content.trees_of_shows : ∀ (content : Content NodeId) (depth next : Nat)
    (holder : NodeId), holder.index < next → dom.IsForest →
    (∀ id ∈ content.handles, dom.tree? id = some (held id)) →
    dom.Shows next (Part.elements (content.parts config.defaultTag depth))
      (content.links holder next) →
    (Link.below (content.links holder next) holder).filterMap dom.tree? =
      content.trees config held
  | .text _, _, _, _, _, _, _, _ => rfl
  | .bag ⟨_, templates⟩, depth, next, holder, hlt, hf, hh, hs =>
      Template.treesOf_of_shows templates depth next holder hlt hf hh hs
  | .items templates, depth, next, holder, hlt, hf, hh, hs =>
      Template.treesOf_of_shows templates depth next holder hlt hf hh hs
  | .node handle, _, _, holder, _, _, hh, _ => by
      rw [Content.links, Link.below_singleton, if_pos rfl, Content.trees,
        List.filterMap_cons_some (hh handle (List.mem_singleton_self handle))]
      rfl

theorem Template.treesOf_of_shows : ∀ (items : List (Template NodeId)) (depth next : Nat)
    (holder : NodeId), holder.index < next → dom.IsForest →
    (∀ id ∈ Template.handlesOf items, dom.tree? id = some (held id)) →
    dom.Shows next (Part.elements (Template.partsOf config.defaultTag depth items))
      (Template.linksOf holder next items) →
    (Link.below (Template.linksOf holder next items) holder).filterMap dom.tree? =
      Template.treesOf config held items
  | [], _, _, _, _, _, _, _ => rfl
  | item :: rest, depth, next, holder, hlt, hf, hh, hs => by
      rw [Template.partsOf, Part.elements_append, Part.elements_append, Part.elements_map_held,
        List.append_nil] at hs
      have hcount := Template.length_elements config.defaultTag item depth
      have hleft := hs.left fun id hid => Template.below_linksOf_left hlt (hcount ▸ hid)
      have hright := hs.right fun id hid => Template.below_linksOf_right hlt
        (hcount ▸ (mem_newIds.mp hid).1)
      rw [hcount] at hright
      have hitem := Template.tree?_of_shows item depth next hf
        (fun id hid => hh id (List.mem_append_left _ hid)) hleft
      have hrest := Template.treesOf_of_shows rest depth (next + item.count) holder
        (Nat.lt_add_right _ hlt) hf (fun id hid => hh id (List.mem_append_right _ hid)) hright
      rw [Template.below_linksOf_holder hlt, List.filterMap_cons_some hitem, hrest, Template.treesOf]

end

end

namespace Dom.GrownBy

variable {elements : List Element} {links : List Link} {before after : Dom}

theorem shows (h : before.GrownBy elements links after) (hf : before.IsForest)
    (hn : (links.map Link.child).Nodup) : after.Shows before.issued elements links where
  element? number _ := h.element?_new number
  children number _ := by
    have hgone : before.contains ⟨before.issued + number⟩ = false :=
      before.contains_of_issued_le (Nat.le_add_right ..)
    rw [h.children, hf.children_of_not_contains hgone, Link.lasting_eq_self hn]
    rfl

/-- When no linked node leaves a parent, all trees of before stay as they are. -/
theorem tree?_eq (h : before.GrownBy elements links after) (hf : before.IsForest)
    (hfree : ∀ id ∈ links.map Link.child, before.parent? id = none)
    (hnew : ∀ link ∈ links, before.issued ≤ link.holder.index) {id : NodeId}
    (hid : id.index < before.issued) : after.tree? id = before.tree? id := by
  have closed : ∀ id, id.index < before.issued → ∀ child ∈ before.children id,
      child.index < before.issued :=
    fun _ _ _ hc => before.index_lt_issued (hf.mem_children_live hc)
  have hchildren : ∀ id, id.index < before.issued → after.children id = before.children id := by
    intro id hid
    have hbelow : Link.below (Link.lasting links) id = [] := by
      apply Link.below_lasting_eq_nil
      rintro link hl rfl
      exact Nat.lt_irrefl _ (Nat.lt_of_lt_of_le hid (hnew link hl))
    rw [h.children, hbelow, List.append_nil, List.filter_eq_self]
    intro child hc
    have hparent : before.parent? child = some id := hf.mem_children.mp hc
    have hnot : child ∉ links.map Link.child := by
      intro hm
      rw [hfree child hm] at hparent
      cases hparent
    exact decide_eq_true hnot
  refine hf.fold_congr h.isForest closed hchildren ?_ hid
  intro id hid
  rw [h.element?, if_pos hid]

end Dom.GrownBy

namespace Template

variable {template : Template NodeId} {dom : Dom}

theorem nodup_links (hn : template.handles.Nodup)
    (hold : ∀ id ∈ template.handles, id.index < dom.issued) :
    ((template.links dom.issued).map Link.child).Nodup := by
  rw [(template.linked_perm dom.issued).nodup_iff]
  refine List.Nodup.append ?_ (nodup_newIds ..) ?_
  · cases template with
    | element text content => exact hn
    | node handle => exact List.nodup_nil
  · intro id hid hnew
    have hlt := hold id (template.embedded_subset hid)
    have hge := (mem_newIds.mp hnew).1
    omega

/-- Embedded nodes without parents, each of them in one place, bring their trees with them. -/
theorem build_tree? (hf : dom.IsForest) (config : BuildConfig) {held : NodeId → ElementTree}
    (hn : template.handles.Nodup) (hfree : ∀ id ∈ template.handles, dom.parent? id = none)
    (hh : ∀ id ∈ template.handles, dom.tree? id = some (held id)) {root : NodeId}
    (hok : (template.build config dom).result = .ok root) :
    (template.build config dom).target.tree? root = some (template.tree config held) := by
  have hold : ∀ id ∈ template.handles, id.index < dom.issued := by
    intro id hid
    apply dom.index_lt_issued
    rw [← dom.isSome_tree?, hh id hid]
    rfl
  obtain ⟨rfl, hg⟩ := build_grows hf config hold hok
  refine tree?_of_shows config template 0 dom.issued hg.isForest ?_
    (hg.shows hf (nodup_links hn hold))
  intro id hid
  rw [hg.tree?_eq hf ?_ ?_ (hold id hid), hh id hid]
  · intro other ho
    rcases template.mem_links ho with ho | ho
    · exact hfree other (template.embedded_subset ho)
    · exact hf.parent?_of_not_contains (dom.contains_of_issued_le (Nat.le_of_lt ho))
  · intro link hl
    exact (mem_newIds.mp (template.holder_mem dom.issued link hl)).1

end Template

end TemplateTree
