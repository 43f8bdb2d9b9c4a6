import TemplateTree.Proofs.Dom.Changes

/-! # Links

Nodes that are put below others, one after the other. The last link to a node decides where it
stays, and a forest that has grown is known from its new elements and from the links made. -/

namespace TemplateTree

/-- Puts a node behind the children of another one. -/
structure Link where
  holder : NodeId
  child : NodeId
deriving DecidableEq, Repr

namespace Link

/-- The holder in the last link to a node. -/
def holder? (links : List Link) (id : NodeId) : Option NodeId :=
  (links.reverse.find? (·.child = id)).map holder

/-- The links that no later link to the same node undoes. -/
def lasting : List Link → List Link
  | [] => []
  | link :: rest => if link.child ∈ rest.map child then lasting rest else link :: lasting rest

/-- The nodes that links put below one holder, in order. -/
def below (links : List Link) (id : NodeId) : List NodeId :=
  (links.filter (·.holder = id)).map child

variable {first second links : List Link} {link : Link} {id : NodeId}

theorem holder?_append (first second : List Link) (id : NodeId) :
    holder? (first ++ second) id = (holder? second id).or (holder? first id) := by
  rw [holder?, List.reverse_append, List.find?_append, Option.map_or]
  rfl

theorem holder?_cons (link : Link) (links : List Link) (id : NodeId) :
    holder? (link :: links) id = (holder? links id).or (holder? [link] id) :=
  holder?_append [link] links id

theorem holder?_singleton (holder child id : NodeId) :
    holder? [⟨holder, child⟩] id = if id = child then some holder else none := by
  by_cases h : id = child
  · simp [holder?, h]
  · simp [holder?, h, Ne.symm h]

theorem holder?_eq_none (h : id ∉ links.map child) : holder? links id = none := by
  rw [holder?, Option.map_eq_none_iff, List.find?_eq_none]
  intro link hl
  have hne : link.child ≠ id := by
    rintro rfl
    exact h (List.mem_map_of_mem (List.mem_reverse.mp hl))
  simpa using hne

theorem exists_holder? (h : id ∈ links.map child) :
    ∃ link ∈ links, holder? links id = some link.holder := by
  obtain ⟨link, hl, rfl⟩ := List.mem_map.mp h
  have hsome : (links.reverse.find? (·.child = link.child)).isSome := by
    rw [List.find?_isSome]
    exact ⟨link, List.mem_reverse.mpr hl, by simp⟩
  obtain ⟨last, hlast⟩ := Option.isSome_iff_exists.mp hsome
  refine ⟨last, List.mem_reverse.mp (List.mem_of_find?_eq_some hlast), ?_⟩
  rw [holder?, hlast, Option.map_some]

theorem below_append (first second : List Link) (id : NodeId) :
    below (first ++ second) id = below first id ++ below second id := by
  rw [below, List.filter_append, List.map_append]
  rfl

theorem below_eq_nil (h : ∀ link ∈ links, link.holder ≠ id) : below links id = [] := by
  rw [below, List.map_eq_nil_iff, List.filter_eq_nil_iff]
  intro link hl
  simpa using h link hl

theorem below_singleton (holder child id : NodeId) :
    below [⟨holder, child⟩] id = if id = holder then [child] else [] := by
  by_cases h : id = holder
  · simp [below, h]
  · simp [below, h, Ne.symm h]

theorem mem_children_of_mem_below {other : NodeId} (h : other ∈ below links id) :
    other ∈ links.map child := by
  obtain ⟨link, hl, rfl⟩ := List.mem_map.mp h
  exact List.mem_map_of_mem (List.mem_filter.mp hl).1

theorem below_filter_child (links : List Link) (keep : NodeId → Bool) (id : NodeId) :
    below (links.filter fun link => keep link.child) id = (below links id).filter keep := by
  rw [below, below, List.filter_map, List.filter_filter, List.filter_filter]
  congr 2
  funext link
  exact Bool.and_comm ..

theorem lasting_subset (links : List Link) : lasting links ⊆ links := by
  induction links with
  | nil => exact List.Subset.refl _
  | cons link rest ih =>
      rw [lasting]
      split
      · exact List.subset_cons_of_subset link ih
      · exact List.cons_subset_cons link ih

theorem lasting_append (first second : List Link) :
    lasting (first ++ second) =
      (lasting first).filter (·.child ∉ second.map child) ++ lasting second := by
  induction first with
  | nil => rfl
  | cons link rest ih =>
      rw [List.cons_append, lasting, lasting, ih]
      simp only [List.map_append, List.mem_append]
      by_cases hr : link.child ∈ rest.map child
      · rw [if_pos (.inl hr), if_pos hr]
      · rw [if_neg hr]
        by_cases hs : link.child ∈ second.map child
        · rw [if_pos (.inr hs), List.filter_cons_of_neg (by simpa using hs)]
        · rw [if_neg (not_or.mpr ⟨hr, hs⟩), List.filter_cons_of_pos (by simpa using hs),
            List.cons_append]

theorem lasting_eq_self (h : (links.map child).Nodup) : lasting links = links := by
  induction links with
  | nil => rfl
  | cons link rest ih =>
      rw [List.map_cons, List.nodup_cons] at h
      rw [lasting, if_neg h.1, ih h.2]

theorem below_lasting_append (first second : List Link) (id : NodeId) :
    below (lasting (first ++ second)) id =
      (below (lasting first) id).filter (· ∉ second.map child) ++ below (lasting second) id := by
  rw [lasting_append, below_append]
  congr 1
  exact below_filter_child (lasting first) (decide <| · ∉ second.map child) id

theorem below_lasting_eq_nil (h : ∀ link ∈ links, link.holder ≠ id) :
    below (lasting links) id = [] :=
  below_eq_nil fun link hl => h link (lasting_subset links hl)

/-! ## Order -/

/-- Two orders of making links come to the same. -/
structure Same (first second : List Link) : Prop where
  mem_children : ∀ id, id ∈ first.map child ↔ id ∈ second.map child
  holder? : ∀ id, holder? first id = holder? second id
  below : ∀ id, below (lasting first) id = below (lasting second) id

/-- A link can be made earlier than others that have nothing to do with its two nodes. -/
theorem same_cons (hchild : link.child ∉ links.map child)
    (hholder : ∀ other ∈ links, other.holder ≠ link.holder) :
    Same (links ++ [link]) (link :: links) where
  mem_children id := by simp [or_comm]
  holder? id := by
    rw [holder?_append, holder?_cons link links]
    by_cases h : id = link.child
    · rw [h, holder?_eq_none hchild, Option.or_none, Option.none_or]
    · have hlink : Link.holder? [link] id = none := holder?_eq_none (by simpa using h)
      rw [hlink, Option.or_none, Option.none_or]
  below id := by
    have hcons := below_lasting_append [link] links id
    rw [List.singleton_append] at hcons
    rw [below_lasting_append links [link], hcons]
    by_cases h : id = link.holder
    · have hlasting : Link.below (lasting links) id = [] :=
        below_lasting_eq_nil fun other ho => h ▸ hholder other ho
      have hlink : Link.below (lasting [link]) id = [link.child] := by simp [lasting, Link.below, h]
      rw [hlasting, hlink, List.filter_nil, List.nil_append, List.append_nil,
        List.filter_cons_of_pos (by simpa using hchild), List.filter_nil]
    · have hlink : Link.below (lasting [link]) id = [] :=
        below_lasting_eq_nil fun other ho => List.mem_singleton.mp ho ▸ Ne.symm h
      rw [hlink, List.append_nil, List.filter_nil, List.nil_append]
      apply List.filter_eq_self.mpr
      intro other ho
      have hm : other ∈ links.map child :=
        List.map_subset child (lasting_subset links) (mem_children_of_mem_below ho)
      have hne : other ≠ link.child := by
        rintro rfl
        exact hchild hm
      simpa using hne

/-- The order among earlier links does not matter to later ones. -/
theorem Same.append_right (h : Same first second) (links : List Link) :
    Same (first ++ links) (second ++ links) where
  mem_children id := by
    rw [List.map_append, List.map_append, List.mem_append, List.mem_append, h.mem_children]
  holder? id := by rw [holder?_append, holder?_append, h.holder?]
  below id := by rw [below_lasting_append, below_lasting_append, h.below]

end Link

namespace Dom

/-! ## Grown forests -/

/-- New nodes have been made with these elements, in order, and these links, one after the
other. All else is as before. -/
structure GrownBy (elements : List Element) (links : List Link) (before after : Dom) : Prop where
  isForest : after.IsForest
  issued : after.issued = before.issued + elements.length
  element? : ∀ id, after.element? id =
    if id.index < before.issued then before.element? id
    else elements[id.index - before.issued]?
  parent? : ∀ id, after.parent? id = (Link.holder? links id).or (before.parent? id)
  children : ∀ id, after.children id =
    (before.children id).filter (· ∉ links.map Link.child) ++ Link.below (Link.lasting links) id

theorem element?_of_issued_le (dom : Dom) {id : NodeId} (h : dom.issued ≤ id.index) :
    dom.element? id = none := by
  cases he : dom.element? id with
  | none => rfl
  | some element =>
      have hlt : id.index < dom.issued := dom.index_lt_issued (by rw [contains, he]; rfl)
      omega

theorem contains_of_issued_le (dom : Dom) {id : NodeId} (h : dom.issued ≤ id.index) :
    dom.contains id = false := by
  rw [contains, dom.element?_of_issued_le h]
  rfl

theorem countP_eq_countP_range {α : Type} (list : List α) (p : α → Bool) :
    list.countP p = (List.range list.length).countP fun index => list[index]?.any p := by
  induction list with
  | nil => rfl
  | cons a rest ih =>
      rw [List.length_cons, List.range_succ_eq_map, List.countP_cons, List.countP_cons,
        List.countP_map, ih]
      rfl

/-- The nodes of a forest are counted by their ids. -/
theorem size_eq_countP (dom : Dom) :
    dom.size = (List.range dom.issued).countP fun index => dom.contains ⟨index⟩ := by
  rw [size, NodeMap.size, ← Array.countP_toList, countP_eq_countP_range, Array.length_toList]
  apply List.countP_congr
  intro index _
  rw [Array.getElem?_toList, contains, element?, NodeMap.get?]
  cases dom.elements.slots[index]? <;> rfl

namespace GrownBy

variable {elements moreElements : List Element} {links moreLinks : List Link}
  {before middle after dom : Dom}

theorem refl (hf : dom.IsForest) : GrownBy [] [] dom dom where
  isForest := hf
  issued := rfl
  element? id := by
    split
    · rfl
    · rename_i h
      exact dom.element?_of_issued_le (Nat.le_of_not_lt h)
  parent? _ := rfl
  children id := by simp [Link.lasting, Link.below]

theorem trans (h₁ : GrownBy elements links before middle)
    (h₂ : GrownBy moreElements moreLinks middle after) :
    GrownBy (elements ++ moreElements) (links ++ moreLinks) before after where
  isForest := h₂.isForest
  issued := by rw [h₂.issued, h₁.issued, List.length_append, Nat.add_assoc]
  element? id := by
    rw [h₂.element?, h₁.element?, h₁.issued, List.getElem?_append]
    by_cases hb : id.index < before.issued
    · rw [if_pos hb, if_pos hb, if_pos (by omega)]
    · rw [if_neg hb, if_neg hb, Nat.sub_add_eq]
      congr 1
      exact propext (by omega)
  parent? id := by rw [h₂.parent?, h₁.parent?, Link.holder?_append, Option.or_assoc]
  children id := by
    rw [h₂.children, h₁.children, Link.below_lasting_append, List.filter_append,
      List.filter_filter, List.append_assoc]
    congr 2
    funext child
    simp only [List.map_append, List.mem_append, not_or, Bool.decide_and, Bool.and_comm]

theorem insert (hf : dom.IsForest) (element : Element) :
    GrownBy [element] [] dom (dom.insert element).2 where
  isForest := hf.insert element
  issued := dom.issued_insert element
  element? id := by
    rw [element?_insert]
    by_cases hi : id = ⟨dom.issued⟩
    · simp [hi]
    · have hne : id.index ≠ dom.issued := fun h => hi (congrArg NodeId.mk h)
      rw [if_neg hi]
      split
      · rfl
      · rw [dom.element?_of_issued_le (by omega), List.getElem?_eq_none]
        simp only [List.length_singleton]
        omega
  parent? _ := rfl
  children id := by simp [hf.children_insert, Link.lasting, Link.below]

theorem appendChild (hf : dom.IsForest) {parent child : NodeId}
    (h : dom.appendChild parent child = .ok after) :
    GrownBy [] [⟨parent, child⟩] dom after where
  isForest := hf.appendChild h
  issued := by
    obtain ⟨-, -, -, -, rfl⟩ := dom.appendChild_eq_ok h
    simp
  element? id := by
    obtain ⟨-, -, -, -, rfl⟩ := dom.appendChild_eq_ok h
    rw [element?_attach, element?_detach]
    exact (refl hf).element? id
  parent? id := by
    obtain ⟨-, -, -, -, rfl⟩ := dom.appendChild_eq_ok h
    rw [parent?_attach, parent?_detach]
    rw [Link.holder?_singleton]
    by_cases hi : id = child <;> simp [hi]
  children id := by
    obtain ⟨hp, -, -, -, rfl⟩ := dom.appendChild_eq_ok h
    have hlive : (dom.detach child).contains parent := by rw [contains_detach, hp]
    have hlasting : Link.lasting [⟨parent, child⟩] = [⟨parent, child⟩] := rfl
    rw [(hf.detach child).children_attach hlive, hf.children_detach, hlasting,
      Link.below_singleton]
    have hkeep : (fun other => other != child) =
        fun other => decide (other ∉ [(⟨parent, child⟩ : Link)].map Link.child) := by
      funext other
      simp [bne, BEq.beq]
    rw [hkeep]
    split
    · rfl
    · exact (List.append_nil _).symm

theorem congr (h : GrownBy elements links before after) (hs : Link.Same links moreLinks) :
    GrownBy elements moreLinks before after where
  isForest := h.isForest
  issued := h.issued
  element? := h.element?
  parent? id := by rw [h.parent?, hs.holder?]
  children id := by
    rw [h.children, hs.below]
    congr 2
    funext child
    exact decide_eq_decide.mpr (not_congr (hs.mem_children child))

/-- Nodes of before stay, and no id is given to another node. -/
theorem contains_eq (h : GrownBy elements links before after) {id : NodeId}
    (hid : id.index < before.issued) : after.contains id = before.contains id := by
  rw [contains, h.element?, if_pos hid, contains]

theorem contains (h : GrownBy elements links before after) {id : NodeId}
    (hid : before.contains id) : after.contains id := by
  rw [h.contains_eq (before.index_lt_issued hid), hid]

theorem element?_new (h : GrownBy elements links before after) (number : Nat) :
    after.element? ⟨before.issued + number⟩ = elements[number]? := by
  have hge : ¬ before.issued + number < before.issued := by omega
  rw [h.element?, if_neg hge, Nat.add_sub_cancel_left]

theorem contains_new (h : GrownBy elements links before after) {number : Nat}
    (hn : number < elements.length) : after.contains ⟨before.issued + number⟩ := by
  rw [Dom.contains, h.element?_new, List.getElem?_eq_getElem hn]
  rfl

theorem size (h : GrownBy elements links before after) :
    after.size = before.size + elements.length := by
  rw [size_eq_countP, size_eq_countP, h.issued, List.range_add, List.countP_append,
    List.countP_map]
  congr 1
  · apply List.countP_congr
    intro index hi
    rw [h.contains_eq (List.mem_range.mp hi)]
  · rw [List.countP_eq_length.mpr ?_, List.length_range]
    intro number hn
    exact h.contains_new (List.mem_range.mp hn)

end GrownBy

end Dom

end TemplateTree
