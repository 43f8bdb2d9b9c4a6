import Mathlib.Algebra.GroupWithZero.Nat
import TemplateTree.Proofs.Dom.Reachable
import TemplateTree.Proofs.Dom.Links

/-! # Walks and ancestors

The loops behind walks and ancestors have no bound of their own. In a forest both of them end,
and the walks from the nodes without parents divide the forest. -/

namespace TemplateTree.Dom

variable {dom : Dom}

/-! ## Loops -/

/-- The loop of a walk with its pending nodes and the nodes that it gives. It takes the last
pending node and, when that is live, leaves its children for later, the first child last. -/
inductive Visits (dom : Dom) : List NodeId → List NodeId → Prop where
  | done : Visits dom [] []
  | skip {pending order id} (h : dom.contains id = false) :
      Visits dom pending order → Visits dom (pending ++ [id]) order
  | visit {pending order id} (h : dom.contains id) :
      Visits dom (pending ++ (dom.children id).reverse) order →
      Visits dom (pending ++ [id]) (id :: order)

/-- The loop from a node to its parent, while there is one, with the parents that it gives. -/
inductive Climbs (dom : Dom) : NodeId → List NodeId → Prop where
  | top {id} (h : dom.parent? id = none) : Climbs dom id []
  | next {id parent above} (h : dom.parent? id = some parent) :
      Climbs dom parent above → Climbs dom id (parent :: above)

theorem Visits.eq_nil {order : List NodeId} (h : dom.Visits [] order) : order = [] := by
  generalize hs : ([] : List NodeId) = pending at h
  cases h with
  | done => rfl
  | skip | visit => simp at hs

/-- What the loop does with the last pending node. -/
theorem Visits.last {pending order : List NodeId} {id : NodeId}
    (h : dom.Visits (pending ++ [id]) order) :
    (dom.contains id = false ∧ dom.Visits pending order) ∨
      (dom.contains id ∧ ∃ rest, order = id :: rest ∧
        dom.Visits (pending ++ (dom.children id).reverse) rest) := by
  generalize hs : pending ++ [id] = stack at h
  cases h with
  | done => simp at hs
  | skip hl hrest =>
      obtain ⟨rfl, hid⟩ := List.append_inj' hs rfl
      cases hid
      exact .inl ⟨hl, hrest⟩
  | visit hl hrest =>
      obtain ⟨rfl, hid⟩ := List.append_inj' hs rfl
      cases hid
      exact .inr ⟨hl, _, rfl, hrest⟩

/-- The pending nodes decide the run of the loop. -/
theorem Visits.unique {pending first second : List NodeId} (h₁ : dom.Visits pending first)
    (h₂ : dom.Visits pending second) : first = second := by
  induction h₁ generalizing second with
  | done => exact h₂.eq_nil.symm
  | skip hl _ ih =>
      rcases h₂.last with ⟨-, hrest⟩ | ⟨hl', -⟩
      · exact ih hrest
      · simp [hl] at hl'
  | visit hl _ ih =>
      rcases h₂.last with ⟨hl', -⟩ | ⟨-, rest, rfl, hrest⟩
      · simp [hl] at hl'
      · rw [ih hrest]

theorem Climbs.unique {id : NodeId} {first second : List NodeId} (h₁ : dom.Climbs id first)
    (h₂ : dom.Climbs id second) : first = second := by
  induction h₁ generalizing second with
  | top hn =>
      cases h₂ with
      | top => rfl
      | next hp => simp [hn] at hp
  | next hp _ ih =>
      cases h₂ with
      | top hn => simp [hn] at hp
      | next hp' hrest =>
          obtain rfl := Option.some.inj (hp.symm.trans hp')
          rw [ih hrest]

theorem walk_of_not_contains {start : NodeId} (h : dom.contains start = false) :
    dom.walk start = [] := by
  rw [walk, walkUpTo, if_neg (by simp [h])]
  cases dom.issued <;> rfl

theorem ancestors_of_parent?_eq_none {id : NodeId} (h : dom.parent? id = none) :
    dom.ancestors id = [] := by
  unfold ancestors
  cases dom.issued <;> simp [ancestorsUpTo, h]

namespace IsForest

/-- The loop gives a node and all below it before it goes on with what was pending. -/
theorem visits_preorder (hf : dom.IsForest) {id : NodeId} (hl : dom.contains id)
    {pending order : List NodeId} (h : dom.Visits pending order) :
    dom.Visits (pending ++ [id]) (dom.preorder id ++ order) := by
  induction id using hf.induction generalizing pending order with
  | step id ih =>
      have hchildren : ∀ children ⊆ dom.children id,
          dom.Visits (pending ++ children.reverse) (children.flatMap dom.preorder ++ order) := by
        intro children hsub
        induction children with
        | nil => simpa using h
        | cons child rest ihrest =>
            obtain ⟨hchild, hrest⟩ := List.cons_subset.mp hsub
            rw [List.reverse_cons, ← List.append_assoc pending, List.flatMap_cons,
              List.append_assoc (dom.preorder child)]
            exact ih child hchild (hf.mem_children_live hchild) (ihrest hrest)
      rw [hf.preorder_eq]
      exact .visit hl (hchildren _ (List.Subset.refl _))

theorem visits_iff (hf : dom.IsForest) (start : NodeId) (order : List NodeId) :
    dom.Visits [start] order ↔ order = dom.walk start := by
  have hw : dom.Visits [start] (dom.walk start) := by
    cases hl : dom.contains start with
    | false =>
        rw [walk_of_not_contains hl]
        show dom.Visits ([] ++ [start]) []
        exact .skip hl .done
    | true =>
        rw [hf.walk_eq_preorder hl]
        simpa using hf.visits_preorder hl .done
  constructor
  · exact fun h => h.unique hw
  · rintro rfl
    exact hw

theorem climbs_ancestors (hf : dom.IsForest) (id : NodeId) :
    dom.Climbs id (dom.ancestors id) := by
  induction hl : dom.ancestors id generalizing id with
  | nil =>
      cases hp : dom.parent? id with
      | none => exact .top hp
      | some parent => simp [hf.ancestors_of_parent? hp] at hl
  | cons above rest ih =>
      cases hp : dom.parent? id with
      | none => simp [ancestors_of_parent?_eq_none hp] at hl
      | some parent =>
          rw [hf.ancestors_of_parent? hp] at hl
          obtain ⟨rfl, hrest⟩ := List.cons.inj hl
          exact .next hp (ih parent hrest)

theorem climbs_iff (hf : dom.IsForest) (id : NodeId) (above : List NodeId) :
    dom.Climbs id above ↔ above = dom.ancestors id := by
  constructor
  · exact fun h => h.unique (hf.climbs_ancestors id)
  · rintro rfl
    exact hf.climbs_ancestors id

/-! ## Membership -/

theorem ancestors_nodup (hf : dom.IsForest) (id : NodeId) : (id :: dom.ancestors id).Nodup :=
  hf.ancestorsUpTo_nodup dom.issued id

theorem mem_walk_iff (hf : dom.IsForest) {id start : NodeId} :
    id ∈ dom.walk start ↔ dom.contains start ∧ dom.Below id start := by
  cases hl : dom.contains start with
  | false => simp [walk_of_not_contains hl]
  | true => simp [hf.mem_walk hl]

theorem walk_nodup (hf : dom.IsForest) (start : NodeId) : (dom.walk start).Nodup := by
  cases hl : dom.contains start with
  | false =>
      rw [walk_of_not_contains hl]
      exact List.nodup_nil
  | true =>
      rw [hf.walk_eq_preorder hl]
      exact hf.preorder_nodup start

theorem walk_eq (hf : dom.IsForest) {start : NodeId} (h : dom.contains start) :
    dom.walk start = start :: (dom.children start).flatMap dom.walk := by
  have hchildren : (dom.children start).flatMap dom.walk =
      (dom.children start).flatMap dom.preorder := by
    rw [List.flatMap_def, List.flatMap_def]
    congr 1
    apply List.map_congr_left
    exact fun child hc => hf.walk_eq_preorder (hf.mem_children_live hc)
  rw [hchildren, hf.walk_eq_preorder h, hf.preorder_eq]

/-- A walk looks at nothing but the children of the nodes in it. -/
theorem walk_congr {after : Dom} (hf : dom.IsForest) (ha : after.IsForest)
    {keep : NodeId → Prop} (closed : ∀ id, keep id → ∀ child ∈ dom.children id, keep child)
    (hchildren : ∀ id, keep id → after.children id = dom.children id) {start : NodeId}
    (hstart : keep start) (hlive : after.contains start = dom.contains start) :
    after.walk start = dom.walk start := by
  cases hl : dom.contains start with
  | false => rw [walk_of_not_contains hl, walk_of_not_contains (hlive.trans hl)]
  | true =>
      rw [hf.walk_eq_preorder hl, ha.walk_eq_preorder (hlive.trans hl)]
      exact hf.fold_congr ha closed hchildren (fun _ _ => rfl) hstart

theorem below_iff (hf : dom.IsForest) {low high : NodeId} :
    dom.Below low high ↔ low = high ∨ high ∈ dom.ancestors low := by
  rw [hf.mem_ancestors, Below, Relation.reflTransGen_iff_eq_or_transGen, eq_comm]

theorem live_of_mem_walk (hf : dom.IsForest) {id start : NodeId} (h : id ∈ dom.walk start) :
    dom.contains id := by
  obtain ⟨hl, hb⟩ := hf.mem_walk_iff.mp h
  exact hf.below_live hb hl

theorem mem_walk_self (hf : dom.IsForest) {start : NodeId} (hl : dom.contains start) :
    start ∈ dom.walk start :=
  (hf.mem_walk hl).mpr .refl

/-- A walk is closed downwards. -/
theorem mem_walk_of_mem_children (hf : dom.IsForest) {id start child : NodeId}
    (h : id ∈ dom.walk start) (hc : child ∈ dom.children id) : child ∈ dom.walk start := by
  obtain ⟨hl, hb⟩ := hf.mem_walk_iff.mp h
  exact hf.mem_walk_iff.mpr ⟨hl, .head (hf.mem_children.mp hc) hb⟩

end IsForest

/-! ## The whole forest -/

/-- All nodes, in the order of their ids. -/
def nodes (dom : Dom) : List NodeId :=
  ((List.range dom.issued).map NodeId.mk).filter dom.contains

/-- The nodes that have no parent. -/
def roots (dom : Dom) : List NodeId :=
  dom.nodes.filter fun id => (dom.parent? id).isNone

@[simp] theorem mem_nodes {id : NodeId} : id ∈ dom.nodes ↔ dom.contains id := by
  rw [nodes, List.mem_filter, and_iff_right_iff_imp]
  intro h
  exact List.mem_map.mpr ⟨id.index, List.mem_range.mpr (dom.index_lt_issued h), rfl⟩

theorem nodes_nodup (dom : Dom) : dom.nodes.Nodup :=
  (List.nodup_range.map fun _ _ h => congrArg NodeId.index h).filter _

theorem length_nodes (dom : Dom) : dom.nodes.length = dom.size := by
  rw [size_eq_countP, nodes, ← List.countP_eq_length_filter, List.countP_map]
  rfl

theorem mem_roots {id : NodeId} :
    id ∈ dom.roots ↔ dom.contains id ∧ dom.parent? id = none := by
  simp [roots]

/-- Nothing but the node itself is above a node without a parent. -/
theorem Below.eq_of_parent?_eq_none {low high : NodeId} (h : dom.Below low high)
    (hn : dom.parent? low = none) : low = high := by
  rcases Relation.ReflTransGen.cases_head h with heq | ⟨parent, hp, -⟩
  · exact heq
  · simp [ChildOf, hn] at hp

namespace IsForest

theorem exists_unique_root (hf : dom.IsForest) {id : NodeId} (h : dom.contains id) :
    ∃! root, root ∈ dom.roots ∧ id ∈ dom.walk root := by
  obtain ⟨top, hb, ht⟩ := hf.exists_top id
  have hl : dom.contains top := by
    rcases Relation.ReflTransGen.cases_tail hb with rfl | ⟨child, -, hc⟩
    · exact h
    · exact hf.parent_live hc
  refine ⟨top, ⟨mem_roots.mpr ⟨hl, ht⟩, (hf.mem_walk hl).mpr hb⟩, ?_⟩
  rintro root ⟨hr, hw⟩
  obtain ⟨hlr, hn⟩ := mem_roots.mp hr
  rcases below_or_below hb ((hf.mem_walk hlr).mp hw) with hb | hb
  · exact (hb.eq_of_parent?_eq_none ht).symm
  · exact hb.eq_of_parent?_eq_none hn

/-- The walks from the roots hold every node once. -/
theorem walks_perm (hf : dom.IsForest) : (dom.roots.flatMap dom.walk).Perm dom.nodes := by
  have hnodup : (dom.roots.flatMap dom.walk).Nodup := by
    refine List.nodup_flatMap.mpr ⟨fun root _ => hf.walk_nodup root, ?_⟩
    refine (dom.nodes_nodup.filter _).imp_of_mem ?_
    intro first second h₁ h₂ hne id hw₁ hw₂
    obtain ⟨root, -, honly⟩ := hf.exists_unique_root (hf.live_of_mem_walk hw₁)
    exact hne ((honly first ⟨h₁, hw₁⟩).trans (honly second ⟨h₂, hw₂⟩).symm)
  rw [List.perm_ext_iff_of_nodup hnodup dom.nodes_nodup]
  intro id
  rw [List.mem_flatMap, mem_nodes]
  constructor
  · rintro ⟨root, -, hw⟩
    exact hf.live_of_mem_walk hw
  · intro h
    obtain ⟨root, hroot, -⟩ := hf.exists_unique_root h
    exact ⟨root, hroot⟩

end IsForest

/-- In every forest that operations lead to both loops end. A walk is a node before the walks
of its children and holds each node below once, ancestors are distinct nodes above, and every
node is in the walk of one root alone. -/
theorem walks_divide (hdom : dom.Reachable) :
    (∀ start order, dom.Visits [start] order ↔ order = dom.walk start) ∧
      (∀ id above, dom.Climbs id above ↔ above = dom.ancestors id) ∧
      (∀ start, dom.contains start →
        dom.walk start = start :: (dom.children start).flatMap dom.walk ∧
          (dom.walk start).Nodup ∧
          ∀ id, id ∈ dom.walk start ↔ id = start ∨ start ∈ dom.ancestors id) ∧
      (∀ start, dom.contains start = false → dom.walk start = []) ∧
      (∀ id, (dom.ancestors id).Nodup ∧ id ∉ dom.ancestors id) ∧
      (∀ id, dom.contains id →
        ∃! root, dom.contains root ∧ dom.parent? root = none ∧ id ∈ dom.walk root) ∧
      (∀ root, root ∈ dom.roots ↔ dom.contains root ∧ dom.parent? root = none) ∧
      dom.roots.Nodup ∧ (dom.roots.map fun root => (dom.walk root).length).sum = dom.size := by
  have hf : dom.IsForest := hdom.isForest
  refine ⟨hf.visits_iff, hf.climbs_iff, ?_, fun _ => walk_of_not_contains, ?_, ?_,
    fun _ => mem_roots, dom.nodes_nodup.filter _, ?_⟩
  · intro start h
    refine ⟨hf.walk_eq h, hf.walk_nodup start, fun id => ?_⟩
    rw [hf.mem_walk h, hf.below_iff]
  · intro id
    obtain ⟨hnot, hnodup⟩ := List.nodup_cons.mp (hf.ancestors_nodup id)
    exact ⟨hnodup, hnot⟩
  · intro id h
    simpa only [mem_roots, and_assoc] using hf.exists_unique_root h
  · rw [← List.length_flatMap, hf.walks_perm.length_eq, length_nodes]

/-- A list whose second item holds a link, after one item has been removed. -/
def linkList : Dom :=
  Dom.empty.applyAll [.insert { tag := "ul" }, .insert { tag := "li" }, .insert { tag := "li" },
    .insert { tag := "a" }, .insert { tag := "li" }, .append ⟨0⟩ ⟨1⟩, .append ⟨0⟩ ⟨2⟩,
    .append ⟨2⟩ ⟨3⟩, .append ⟨0⟩ ⟨4⟩, .remove ⟨1⟩]

theorem walk_linkList :
    linkList.Reachable ∧ linkList.walk ⟨0⟩ = [⟨0⟩, ⟨2⟩, ⟨3⟩, ⟨4⟩] ∧
      linkList.Visits [⟨0⟩] [⟨0⟩, ⟨2⟩, ⟨3⟩, ⟨4⟩] ∧ linkList.Climbs ⟨3⟩ [⟨2⟩, ⟨0⟩] ∧
      linkList.walk ⟨1⟩ = [] ∧ linkList.size = 4 := by
  have hdom : linkList.Reachable := ⟨_, rfl⟩
  have hwalk : linkList.walk ⟨0⟩ = [⟨0⟩, ⟨2⟩, ⟨3⟩, ⟨4⟩] := by decide +kernel
  have habove : linkList.ancestors ⟨3⟩ = [⟨2⟩, ⟨0⟩] := by decide +kernel
  obtain ⟨hvisits, hclimbs, -, hstale, -, -, -, -, hsum⟩ := walks_divide hdom
  refine ⟨hdom, hwalk, (hvisits _ _).mpr hwalk.symm, (hclimbs _ _).mpr habove.symm,
    hstale _ (by decide +kernel), hsum.symm.trans (by decide +kernel)⟩

end TemplateTree.Dom
