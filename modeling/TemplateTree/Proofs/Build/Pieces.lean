import TemplateTree.Proofs.Build.Trees
import TemplateTree.Proofs.Template.Place

/-! # Building in pieces

An item can be built on its own and embedded afterwards. The tree is the one that building the
whole template at once gives. -/

namespace TemplateTree

namespace Part

variable {config : BuildConfig} {live live' : NodeId → Bool} {part : Part NodeId}

/-- What can be built stays so when more nodes are live. -/
theorem fault?_mono (hlive : ∀ id, live id → live' id) (h : part.fault? config live = none) :
    part.fault? config live' = none := by
  cases part with
  | element depth data => exact h
  | held node =>
      have hl : live node := by
        by_contra hl
        simp [fault?, hl] at h
      rw [fault?, if_pos (hlive node hl)]

/-- What can be built further down can be built here. -/
theorem fault?_of_deeper (levels : Nat) (h : (part.deeper levels).fault? config live = none) :
    part.fault? config live = none := by
  cases part with
  | element depth data =>
      rw [deeper, fault?] at h
      rw [fault?]
      split at h
      · cases h
      · rw [if_neg (by omega)]
        exact h
  | held node => exact h

end Part

namespace Template

variable {dom : Dom} {config : BuildConfig} {template : Template NodeId}

theorem exists_build_eq_ok (hf : dom.IsForest) (config : BuildConfig)
    (hh : ∀ id ∈ template.handles, id.index < dom.issued) :
    (∃ root, (template.build config dom).result = .ok root) ↔
      ∀ part ∈ template.parts config.defaultTag 0, part.fault? config dom.contains = none := by
  have hb := build_built hf config hh
  rw [hb.result_eq, ← List.findSome?_eq_none_iff]
  constructor
  · rintro ⟨root, hok⟩
    exact (FirstFault.outcome_eq_ok hok.symm).2
  · exact fun hn => ⟨_, FirstFault.outcome_of_none hn _⟩

theorem size_of_build (hf : dom.IsForest) (config : BuildConfig)
    (hh : ∀ id ∈ template.handles, id.index < dom.issued) {root : NodeId}
    (hok : (template.build config dom).result = .ok root) :
    (template.build config dom).target.size = dom.size + template.count := by
  rw [(build_grows hf config hh hok).2.size, length_elements]

theorem partsOf_of_handles (h : template.handles = []) (defaultTag : String) (depth : Nat) :
    partsOf defaultTag depth [template] = template.parts defaultTag depth := by
  cases template with
  | element text content => exact partsOf_element ..
  | node handle => simp [handles] at h

theorem parts_subset_partsOf (defaultTag : String) (depth : Nat) (template : Template NodeId) :
    template.parts defaultTag depth ⊆ partsOf defaultTag depth [template] := by
  rw [partsOf, List.append_assoc]
  exact List.subset_append_left ..

end Template

namespace Place

variable {dom after : Dom} {config : BuildConfig} {place : Place NodeId} {part : Template NodeId}
  {node : NodeId}

theorem index_lt_issued (ht : (place.fill part).handles = []) (hnode : after.contains node) :
    ∀ id ∈ (place.fill (.node node)).handles, id.index < after.issued := by
  intro id hid
  rw [handles_fill ht, Template.handles, List.mem_singleton] at hid
  exact hid ▸ after.index_lt_issued hnode

/-- Where the whole can be built, so can each item. -/
theorem build_part (hf : dom.IsForest) (ht : (place.fill part).handles = [])
    (hok : ∃ root, ((place.fill part).build config dom).result = .ok root) :
    ∃ node, (part.build config dom).result = .ok node := by
  have hpart : part.handles = [] := (handles_fill ht part).symm.trans ht
  obtain ⟨before, after, hparts⟩ := place.partsOf_fill config.defaultTag 0
  rw [Template.exists_build_eq_ok hf config (by simp [ht]), ← Template.partsOf_of_handles ht,
    hparts, Template.partsOf_of_handles hpart, Template.parts_add] at hok
  rw [Template.exists_build_eq_ok hf config (by simp [hpart])]
  intro entry he
  apply Part.fault?_of_deeper place.levels
  exact hok _ (List.mem_append_left after (List.mem_append_right before (List.mem_map_of_mem he)))

/-- Around a live node the rest can be built where the whole could be built before. -/
theorem build_around (hf : dom.IsForest) (ha : after.IsForest)
    (hlive : ∀ id, dom.contains id → after.contains id) (ht : (place.fill part).handles = [])
    (hok : ∃ root, ((place.fill part).build config dom).result = .ok root)
    (hnode : after.contains node) :
    ∃ root, ((place.fill (.node node)).build config after).result = .ok root := by
  obtain ⟨first, last, hparts⟩ := place.partsOf_fill config.defaultTag 0
  rw [Template.exists_build_eq_ok hf config (by simp [ht]), ← Template.partsOf_of_handles ht,
    hparts] at hok
  rw [Template.exists_build_eq_ok ha config (index_lt_issued ht hnode)]
  intro entry he
  have he := Template.parts_subset_partsOf config.defaultTag 0 _ he
  rw [hparts, List.mem_append, List.mem_append] at he
  rcases he with (he | he) | he
  · exact Part.fault?_mono hlive
      (hok entry (List.mem_append_left last (List.mem_append_left _ he)))
  · rw [List.mem_singleton.mp he, Part.fault?, if_pos hnode]
  · exact Part.fault?_mono hlive (hok entry (List.mem_append_right _ he))

/-- A node without a parent that has the tree of an item makes the tree of the whole. -/
theorem tree?_of_node (ha : after.IsForest) (ht : (place.fill part).handles = [])
    (held : NodeId → ElementTree) (hparent : after.parent? node = none)
    (htree : after.tree? node = some (part.tree config held))
    (hheld : held node = part.tree config held) {root : NodeId}
    (hok : ((place.fill (.node node)).build config after).result = .ok root) :
    ((place.fill (.node node)).build config after).target.tree? root =
      some ((place.fill part).tree config held) := by
  have hhandles : (place.fill (.node node)).handles = [node] := handles_fill ht (.node node)
  have hsame : (Template.node node).tree config held = part.tree config held := hheld
  rw [← tree_fill hsame]
  refine Template.build_tree? ha config ?_ ?_ ?_ hok
  · rw [hhandles]
    exact List.nodup_singleton node
  · rw [hhandles, List.forall_mem_singleton]
    exact hparent
  · rw [hhandles, List.forall_mem_singleton, hheld]
    exact htree

end Place

/-- An item can be built first and embedded as a node. If the template builds as a whole then
so do both pieces, and HTML, texts and the number of nodes are the same either way. -/
theorem Template.build_in_pieces {dom : Dom} (hdom : dom.Reachable) (config : BuildConfig)
    (place : Place NodeId) {part : Template NodeId} (ht : (place.fill part).handles = [])
    {root : NodeId} (hok : ((place.fill part).build config dom).result = .ok root) :
    let whole := (place.fill part).build config dom
    let first := part.build config dom
    ∃ node, first.result = .ok node ∧
      let second := (place.fill (.node node)).build config first.target
      ∃ root', second.result = .ok root' ∧
        second.target.html root' = whole.target.html root ∧
        second.target.textContent root' = whole.target.textContent root ∧
        second.target.size = whole.target.size := by
  intro whole first
  have hf : dom.IsForest := hdom.isForest
  have hpart : part.handles = [] := (Place.handles_fill ht part).symm.trans ht
  obtain ⟨node, hfirst⟩ := Place.build_part hf ht ⟨root, hok⟩
  obtain ⟨-, hgrown⟩ := build_grows hf config (by simp [hpart]) hfirst
  have ha : first.target.IsForest := hgrown.isForest
  -- The whole embeds no nodes, so that the trees of nodes can be chosen to suit the pieces.
  let held : NodeId → ElementTree := fun id =>
    (first.target.tree? id).getD (.node { tag := "" } [])
  have hmade := build_made hf config hpart held hfirst
  have hheld : held node = part.tree config held := by
    show (first.target.tree? node).getD _ = _
    rw [hmade.tree?]
    rfl
  have hlive : first.target.contains node := by
    rw [← Dom.isSome_tree?, hmade.tree?]
    rfl
  obtain ⟨root', hsecond⟩ :=
    Place.build_around hf ha (fun _ => hgrown.contains) ht ⟨root, hok⟩ hlive
  have hwhole := (build_made hf config ht held hok).tree?
  have hpieces := Place.tree?_of_node ha ht held hmade.parent? hmade.tree? hheld hsecond
  refine ⟨node, hfirst, root', hsecond, ?_, ?_, ?_⟩
  · rw [Dom.html_of_tree? hpieces, Dom.html_of_tree? hwhole]
  · rw [Dom.IsForest.textContent_of_tree? (build_keeps Dom.isForest_keeps config _ ha) hpieces,
      Dom.IsForest.textContent_of_tree? (build_keeps Dom.isForest_keeps config _ hf) hwhole]
  · rw [size_of_build ha config (Place.index_lt_issued ht hlive) hsecond,
      size_of_build hf config (by simp [ht]) hok,
      size_of_build hf config (by simp [hpart]) hfirst, Place.count_fill, Place.count_fill]
    simp only [count]
    omega

/-- A list with a hole before the last child of its second item. -/
def menu : Place NodeId :=
  .inItems "ul" [.element "li" (.text "one")]
    (.inBag "li.k" [.html "two"] [] .here [.element "hr" (.items [])])
    [.element "li" (.text "three")]

def menuEntry : Template NodeId :=
  .element "a" (.items [.element "b" (.text "x"), .element "i" (.text "y")])

theorem build_menu :
    let dom := Dom.empty.applyAll [.insert { tag := "p" }]
    let whole := (menu.fill menuEntry).build {} dom
    let first := menuEntry.build {} dom
    dom.Reachable ∧ (menu.fill menuEntry).handles = [] ∧ whole.result = .ok ⟨1⟩ ∧
      ∃ node, first.result = .ok node ∧
        let second := (menu.fill (.node node)).build {} first.target
        ∃ root, second.result = .ok root ∧ second.target.html root =
          "<ul><li>one</li><li class=\"k\">two<a><b>x</b><i>y</i></a><hr></li><li>three</li></ul>" ∧
          second.target.textContent root = "onetwoxythree" ∧ second.target.size = 9 := by
  intro dom whole first
  have hdom : dom.Reachable := ⟨[.insert { tag := "p" }], rfl⟩
  have hok : ((menu.fill menuEntry).build {} dom).result = .ok ⟨1⟩ := by decide +kernel
  obtain ⟨node, hfirst, root, hsecond, hhtml, htext, hsize⟩ :=
    Template.build_in_pieces hdom {} menu rfl hok
  refine ⟨hdom, rfl, hok, node, hfirst, root, hsecond, hhtml.trans ?_, htext.trans ?_,
    hsize.trans ?_⟩
  · decide +kernel
  · decide +kernel
  · decide +kernel

end TemplateTree
