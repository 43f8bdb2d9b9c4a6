import TemplateTree.Proofs.Build.InForest
import TemplateTree.Proofs.Dom.Agreement

/-! # Builds in a forest

A build of a template without embedded nodes leaves all earlier nodes alone, and when it
succeeds the new nodes are the tree that the template describes. -/

namespace TemplateTree

namespace Build

variable {dom : Dom}

/-! ## Nodes under construction -/

/-- A live node without a parent, as an element is while it is being built. -/
structure Open (dom : Dom) (node : NodeId) : Prop where
  live : dom.contains node
  parent? : dom.parent? node = none

/-- What a build below `node` leaves alone. -/
def Beside (dom : Dom) (node id : NodeId) : Prop :=
  id ≠ node ∧ id.index < dom.issued

theorem Beside.mono {first second : Dom} {node id : NodeId} (h : Beside first node id)
    (hle : first.issued ≤ second.issued) : Beside second node id :=
  ⟨h.1, Nat.lt_of_lt_of_le h.2 hle⟩

/-- What building and appending `trees` below `node` comes to. -/
structure Filled (node : NodeId) (trees : List ElementTree) (before after : Dom) : Prop where
  element? : after.element? node = before.element? node
  children : ∃ made, after.children node = before.children node ++ made ∧
    made.filterMap after.tree? = trees

/-- What building a template with this tree comes to. -/
structure Made (root : NodeId) (tree : ElementTree) (before after : Dom) : Prop where
  root_eq : root = ⟨before.issued⟩
  parent? : after.parent? root = none
  tree? : after.tree? root = some tree

/-- A finished tree stays as it is while siblings are built. -/
theorem tree?_beside {after : Dom} {node : NodeId} (hf : dom.IsForest) (ho : Open dom node)
    (h : dom.Extends (Beside dom node) after) {id : NodeId} (hid : Beside dom node id) :
    after.tree? id = dom.tree? id := by
  refine h.agree.tree?_eq hf h.isForest ?_ hid
  intro other _ child hc
  exact ⟨hf.ne_of_mem_children ho.parent? hc, dom.index_lt_issued (hf.mem_children_live hc)⟩

section

variable {first second third : Dom} {node root : NodeId} {tree : ElementTree}
  {trees : List ElementTree}

theorem Open.extends (ho : Open first node) (h : first.Extends (·.index < first.issued) second) :
    Open second node :=
  have hk := first.index_lt_issued ho.live
  ⟨(h.agree.contains hk).trans ho.live, (h.agree.parent? hk).trans ho.parent?⟩

theorem Made.ne (hm : Made root tree first second) (ho : Open first node) : node ≠ root := by
  rintro rfl
  have hi := first.index_lt_issued ho.live
  rw [hm.root_eq] at hi
  exact Nat.lt_irrefl _ hi

theorem Open.attach (ho : Open second node) (hne : node ≠ root) :
    Open (second.attach node root) node :=
  ⟨ho.live, by rw [Dom.parent?_attach, if_neg hne, ho.parent?]⟩

/-- Appending a new tree leaves alone what was there before the tree. -/
theorem Made.extends_attach (hm : Made root tree first second) (ho : Open first node)
    (h : first.Extends (·.index < first.issued) second) (ha : (second.attach node root).IsForest) :
    first.Extends (Beside first node) (second.attach node root) := by
  have hs : Open second node := ho.extends h
  refine (h.mono (·.2)).trans ⟨ha, Nat.le_refl _, ?_⟩
  refine (Dom.Agree.attach h.isForest hs.live root).mono ?_
  rintro id ⟨hne, hlt⟩
  refine ⟨hne, ?_⟩
  rintro rfl
  rw [hm.root_eq] at hlt
  exact Nat.lt_irrefl _ hlt

/-- An appended new tree comes before the trees that are built after it. -/
theorem Filled.cons (ho : Open first node) (h : first.Extends (·.index < first.issued) second)
    (hm : Made root tree first second) (ha : (second.attach node root).IsForest)
    (ht : (second.attach node root).Extends (Beside (second.attach node root) node) third)
    (hr : Filled node trees (second.attach node root) third) :
    Filled node (tree :: trees) first third := by
  have hk : node.index < first.issued := first.index_lt_issued ho.live
  have hs : Open second node := ho.extends h
  have hne : node ≠ root := hm.ne ho
  have hroot : root.index < second.issued := by
    apply second.index_lt_issued
    rw [← second.isSome_tree?, hm.tree?]
    rfl
  have htree : third.tree? root = some tree := by
    rw [tree?_beside ha (hs.attach hne) ht ⟨hne.symm, hroot⟩,
      h.isForest.tree?_attach hs.live hs.parent? ha hne.symm, hm.tree?]
  obtain ⟨made, hc, hmade⟩ := hr.children
  refine ⟨hr.element?.trans (h.agree.element? hk), root :: made, ?_, ?_⟩
  · rw [hc, h.isForest.children_attach hs.live, if_pos rfl, h.agree.children hk,
      List.append_assoc]
    rfl
  · rw [List.filterMap_cons_some htree, hmade]

/-- Changing the element of an open node leaves everything beside it alone. -/
theorem extends_modifyElement (hf : first.IsForest) (node : NodeId)
    (change : Element → Element) :
    first.Extends (Beside first node) (first.modifyElement node change) :=
  ⟨hf.modifyElement node change, by simp,
    (Dom.Agree.modifyElement first node change).mono (·.1)⟩

theorem Open.modifyElement (ho : Open first node) (change : Element → Element) :
    Open (first.modifyElement node change) node :=
  ⟨(first.contains_modifyElement node change node).trans ho.live, ho.parent?⟩

theorem Filled.of_childless (h : Filled node trees first second)
    (hc : first.children node = []) : (second.children node).filterMap second.tree? = trees := by
  obtain ⟨made, hm, ht⟩ := h.children
  rw [hm, hc, List.nil_append, ht]

theorem open_insert (hf : first.IsForest) (element : Element) :
    Open (first.insert element).2 ⟨first.issued⟩ :=
  ⟨by simp, hf.parent?_of_not_contains first.contains_issued⟩

theorem children_of_insert (hf : first.IsForest) (element : Element) :
    (first.insert element).2.children ⟨first.issued⟩ = [] := by
  rw [hf.children_insert]
  exact hf.children_of_not_contains first.contains_issued

theorem extends_insert (hf : first.IsForest) (element : Element) :
    first.Extends (·.index < first.issued) (first.insert element).2 :=
  ⟨hf.insert element, by simp, .insert hf element⟩

theorem beside_insert {element : Element} {id : NodeId} (h : id.index < first.issued) :
    Beside (first.insert element).2 ⟨first.issued⟩ id := by
  refine ⟨?_, by simpa using Nat.lt_succ_of_lt h⟩
  rintro rfl
  exact Nat.lt_irrefl _ h

end

/-! ## Whole templates -/

/-- What building a content for an open node without children comes to. -/
structure Finished (node : NodeId) (change : Element → Element) (trees : List ElementTree)
    (before after : Dom) : Prop where
  element? : after.element? node = (before.element? node).map change
  children : (after.children node).filterMap after.tree? = trees

variable (config : BuildConfig) (held : NodeId → ElementTree)

-- Failing builds are part of the statements, since what they leave alone is what the parts
-- built before them stand on.
mutual

theorem template_grows : ∀ (item : Template NodeId) {depth : Nat} {dom : Dom},
    item.handles = [] → dom.IsForest →
    (template config depth item : Build Dom DomFault NodeId).Ends dom fun result after =>
      dom.Extends (·.index < dom.issued) after ∧
        ∀ root, result = .ok root → Made root (item.tree config held) dom after
  | .node _, _, _, h, _ => by simp [Template.handles] at h
  | .element text value, depth, dom, h, hf => by
      rw [template]
      by_cases hd : config.maxDepth ≤ depth
      · refine (startElement_of_too_deep hd).bind_error ?_
        exact ⟨.refl hf, fun _ hok => nomatch hok⟩
      by_cases ht : isValidTagName (Selector.parseWith config.defaultTag text).tag
      · refine (startElement_endsIn value.kind (by omega) ht).bind_ok ?_
        have hopen := open_insert hf (Selector.parseWith config.defaultTag text).element
        have hx := extends_insert hf (Selector.parseWith config.defaultTag text).element
        refine (content_grows value h hx.isForest hopen (children_of_insert hf _)).bind ?_ ?_
        · rintro _ after ⟨he, hroot, hfin⟩
          refine Ends.pure ⟨hx.trans (he.mono beside_insert), ?_⟩
          rintro _ ⟨⟩
          have hfin := hfin rfl
          refine ⟨rfl, hroot.parent?, ?_⟩
          rw [he.isForest.tree?_eq, hfin.element?, hfin.children, Dom.element?_insert,
            if_pos rfl]
          exact congrArg some (congrArg (ElementTree.node · _) (Content.applyTo_element _ value))
        · rintro fault after ⟨he, -, -⟩
          exact ⟨hx.trans (he.mono beside_insert), fun _ hok => nomatch hok⟩
      · have hc := (Dom.run_createElement dom _).trans (if_neg ht)
        refine (startElement_of_refused (by omega) hc).bind_error ?_
        exact ⟨.refl hf, fun _ hok => nomatch hok⟩

theorem content_grows : ∀ (value : Content NodeId) {depth : Nat} {dom : Dom} {node : NodeId},
    value.handles = [] → dom.IsForest → Open dom node → dom.children node = [] →
    (content config depth node value : Build Dom DomFault Unit).Ends dom fun result after =>
      dom.Extends (Beside dom node) after ∧ Open after node ∧
        (result = .ok () →
          Finished node (Content.applyTo · value) (value.trees config held) dom after)
  | .text text, _, dom, node, _, hf, ho, hc => by
      refine (setText_endsIn ho.live hc text).ends ?_
      refine ⟨extends_modifyElement hf node _, ho.modifyElement _, fun _ => ⟨?_, ?_⟩⟩
      · rw [Dom.element?_modifyElement, if_pos rfl]
        rfl
      · rw [Dom.children_modifyElement, hc]
        rfl
  | .bag ⟨properties, templates⟩, _, dom, node, h, hf, ho, hc => by
      have hx := extends_modifyElement hf node (properties.foldl Property.applyTo)
      refine (applyProperties_endsIn ho.live hc properties).bind_ok ?_
      refine (children_grows templates h hx.isForest (ho.modifyElement _)).imp ?_
      rintro result after ⟨he, hopen, hfill⟩
      refine ⟨hx.trans (he.mono (·.mono hx.issued_le)), hopen, fun hok => ⟨?_, ?_⟩⟩
      · rw [(hfill hok).element?, Dom.element?_modifyElement, if_pos rfl]
        congr 1
        funext element
        exact element.foldl_applyTo properties
      · exact (hfill hok).of_childless hc
  | .items templates, _, dom, node, h, hf, ho, hc => by
      refine (children_grows templates h hf ho).imp ?_
      rintro result after ⟨he, hopen, hfill⟩
      refine ⟨he, hopen, fun hok => ⟨?_, (hfill hok).of_childless hc⟩⟩
      rw [(hfill hok).element?]
      cases dom.element? node <;> rfl
  | .node _, _, _, _, h, _, _, _ => by simp [Content.handles] at h

theorem children_grows : ∀ (items : List (Template NodeId)) {depth : Nat} {dom : Dom}
    {node : NodeId}, Template.handlesOf items = [] → dom.IsForest → Open dom node →
    (children config depth node items : Build Dom DomFault Unit).Ends dom fun result after =>
      dom.Extends (Beside dom node) after ∧ Open after node ∧
        (result = .ok () → Filled node (Template.treesOf config held items) dom after)
  | [], _, dom, node, _, hf, ho => by
      refine Ends.pure ⟨.refl hf, ho, fun _ => ?_⟩
      exact ⟨rfl, [], (List.append_nil _).symm, rfl⟩
  | item :: rest, depth, dom, node, h, hf, ho => by
      rw [Template.handlesOf, List.append_eq_nil_iff] at h
      rw [children]
      refine (template_grows item h.1 hf).bind ?_ ?_
      · rintro root second ⟨he, hm⟩
        have hm := hm root rfl
        have hs : Open second node := ho.extends he
        have hne : node ≠ root := hm.ne ho
        cases hr : second.appendChild node root with
        | error fault =>
            refine (step_endsIn_error hr).bind_error ?_
            exact ⟨he.mono (·.2), hs, fun hok => nomatch hok⟩
        | ok third =>
            obtain ⟨-, -, -, -, rfl⟩ := second.appendChild_eq_ok hr
            rw [Dom.detach_of_parent?_eq_none hm.parent?] at hr
            have ha : (second.attach node root).IsForest := he.isForest.appendChild hr
            refine (step_endsIn hr).bind_ok ?_
            refine (children_grows rest h.2 ha (hs.attach hne)).imp ?_
            rintro result after ⟨ht, hopen, hfill⟩
            have hle := (hm.extends_attach ho he ha).issued_le
            refine ⟨(hm.extends_attach ho he ha).trans (ht.mono (·.mono hle)), hopen, ?_⟩
            exact fun hok => .cons ho he hm ha ht (hfill hok)
      · rintro fault second ⟨he, _⟩
        exact ⟨he.mono (·.2), ho.extends he, fun hok => nomatch hok⟩

end

end Build

theorem Template.build_made {dom : Dom} (hf : dom.IsForest) (config : BuildConfig)
    {template : Template NodeId} (ht : template.handles = []) (held : NodeId → ElementTree)
    {root : NodeId} (hok : (template.build config dom).result = .ok root) :
    Build.Made root (template.tree config held) dom (template.build config dom).target :=
  (Build.template_grows config held template ht hf []).2 root hok

/-- A build that succeeds makes a tree of its own, which is the tree that the template
describes. Its HTML depends on the template and the configuration alone. -/
theorem Template.build_describes {dom : Dom} (hdom : dom.Reachable) (config : BuildConfig)
    {template : Template NodeId} (ht : template.handles = []) (held : NodeId → ElementTree)
    {root : NodeId} (hok : (template.build config dom).result = .ok root) :
    let after := (template.build config dom).target
    after.parent? root = none ∧ after.tree? root = some (template.tree config held) ∧
      after.html root = (template.tree config held).html := by
  intro after
  have hm := build_made hdom.isForest config ht held hok
  exact ⟨hm.parent?, hm.tree?, Dom.html_of_tree? hm.tree?⟩

/-- A list whose selector and bag both give classes, with an item that holds text and one
that holds nothing. -/
def shoppingList : Template NodeId :=
  .element "ul.a.b#x" (.bag {
    properties := [.attr "class" (.text " c  d "), .html "old", .style "top: 0", .html "to buy"]
    children := [.element "li" (.text "1 < 2"), .element ".k" (.items [])] })

theorem build_shoppingList :
    let dom := Dom.empty.applyAll [.insert { tag := "p" }]
    let after := (shoppingList.build {} dom).target
    let tree := shoppingList.tree {} fun _ => .node { tag := "p" } []
    dom.Reachable ∧ shoppingList.handles = [] ∧
      (shoppingList.build {} dom).result = .ok ⟨1⟩ ∧
      (after.parent? ⟨1⟩ = none ∧ after.tree? ⟨1⟩ = some tree ∧ after.html ⟨1⟩ = tree.html) ∧
      tree.html = "<ul class=\"c d\" id=\"x\" style=\"top: 0\">to buy<li>1 &lt; 2</li>" ++
        "<div class=\"k\"></div></ul>" := by
  intro dom after tree
  have hdom : dom.Reachable := ⟨[.insert { tag := "p" }], rfl⟩
  have hok : (shoppingList.build {} dom).result = .ok ⟨1⟩ := by decide +kernel
  exact ⟨hdom, rfl, hok, Template.build_describes hdom {} rfl _ hok, by decide +kernel⟩

end TemplateTree
