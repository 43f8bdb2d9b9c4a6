import TemplateTree.Proofs.Build.FirstFault
import TemplateTree.Proofs.Build.Growth
import TemplateTree.Proofs.Template.Links

/-! # Builds with embedded nodes

A build in a forest goes through the parts of its template in document order, up to the first
one at fault. Its new elements stay without a parent until they are finished, so that nothing
that is put below them makes a cycle. -/

namespace TemplateTree

/-- Why a part cannot be built in a forest with these live nodes. The depth is looked at before
the tag. -/
def Part.fault? (config : BuildConfig) (live : NodeId → Bool) :
    Part NodeId → Option (BuildFault DomFault)
  | .element depth data =>
    if config.maxDepth ≤ depth then some (.depthExceeded config.maxDepth)
    else if isValidTagName data.tag then none
    else some (.target (.invalidTagName data.tag))
  | .held node => if live node then none else some (.target .nodeNotFound)

namespace Build

open FirstFault

/-- How going through parts ends that makes these links, and gives `a`, when no part is at
fault. Before the fault, too, new nodes are made and linked. -/
structure Built {α : Type} (config : BuildConfig) (live : NodeId → Bool)
    (parts : List (Part NodeId)) (links : List Link) (a : α) (before : Dom)
    (result : Except (BuildFault DomFault) α) (after : Dom) : Prop where
  result_eq : result = outcome (Part.fault? config live) parts a
  grown : ∃ made,
    before.GrownBy (Part.elements (reached (Part.fault? config live) parts)) made after
  linked : parts.findSome? (Part.fault? config live) = none →
    before.GrownBy (Part.elements parts) links after

namespace Built

variable {α β : Type} {config : BuildConfig} {live : NodeId → Bool}
  {parts moreParts : List (Part NodeId)} {links moreLinks : List Link} {a : α} {b : β}
  {before middle after dom : Dom}

theorem of_none {result : Except (BuildFault DomFault) α}
    (hn : parts.findSome? (Part.fault? config live) = none) (hr : result = .ok a)
    (h : before.GrownBy (Part.elements parts) links after) :
    Built config live parts links a before result after where
  result_eq := by rw [outcome_of_none hn, hr]
  grown := ⟨links, by rwa [reached_eq_self hn]⟩
  linked _ := h

/-- A fault in the first part leaves everything as it is. -/
theorem of_some {part : Part NodeId} {fault : BuildFault DomFault}
    (hs : part.fault? config live = some fault) (hf : dom.IsForest) :
    Built config live (part :: parts) links a dom (.error fault) dom := by
  have hfirst : (part :: parts).findSome? (Part.fault? config live) = some fault := by
    rw [List.findSome?_cons, hs]
  have hreached : reached (Part.fault? config live) (part :: parts) = [] := by
    rw [reached, List.takeWhile_cons, hs]
    rfl
  refine ⟨by rw [outcome_of_some hfirst], ⟨[], ?_⟩, ?_⟩
  · rw [hreached]
    exact .refl hf
  · intro hnone
    rw [hfirst] at hnone
    cases hnone

theorem pure (hf : dom.IsForest) (a : α) :
    (Pure.pure a : Build Dom DomFault α).Ends dom (Built config live [] [] a dom) :=
  Ends.pure (of_none rfl rfl (.refl hf))

/-- What has been built without a fault comes before what is built next. -/
theorem after_grown {result : Except (BuildFault DomFault) β}
    (hn : parts.findSome? (Part.fault? config live) = none)
    (hg : before.GrownBy (Part.elements parts) links middle)
    (h : Built config live moreParts moreLinks b middle result after) :
    Built config live (parts ++ moreParts) (links ++ moreLinks) b before result after := by
  obtain ⟨made, hm⟩ := h.grown
  refine ⟨?_, ⟨links ++ made, ?_⟩, ?_⟩
  · rw [outcome_append_of_none hn, h.result_eq]
  · rw [reached_append_of_none hn, Part.elements_append]
    exact hg.trans hm
  · intro hall
    rw [List.findSome?_append, hn, Option.none_or] at hall
    rw [Part.elements_append]
    exact hg.trans (h.linked hall)

theorem bind {build : Build Dom DomFault α} {next : α → Build Dom DomFault β}
    (h : build.Ends dom (Built config live parts links a before))
    (hn : ∀ middle, before.GrownBy (Part.elements parts) links middle →
      (next a).Ends middle (Built config live moreParts moreLinks b middle)) :
    (build >>= next).Ends dom
      (Built config live (parts ++ moreParts) (links ++ moreLinks) b before) := by
  refine Ends.bind h ?_ ?_
  · rintro _ middle hb
    obtain ⟨rfl, hnone⟩ := outcome_eq_ok hb.result_eq
    have hg := hb.linked hnone
    exact (hn middle hg).imp fun result after hm => hm.after_grown hnone hg
  · rintro fault middle hb
    have hsome := outcome_eq_error hb.result_eq
    refine ⟨by rw [outcome_append_of_some hsome], ?_, ?_⟩
    · rw [reached_append_of_some hsome]
      exact hb.grown
    · rw [List.findSome?_append, hsome]
      exact (nomatch ·)

theorem bind_pure {build : Build Dom DomFault α}
    (h : build.Ends dom (Built config live parts links a before)) (b : β) :
    (build >>= fun _ => Pure.pure b).Ends dom (Built config live parts links b before) := by
  rw [← List.append_nil parts, ← List.append_nil links]
  exact bind h fun _ hg => pure hg.isForest b

theorem congr {result : Except (BuildFault DomFault) α}
    (h : Built config live parts links a before result after) (hs : Link.Same links moreLinks) :
    Built config live parts moreLinks a before result after :=
  ⟨h.result_eq, h.grown, fun hn => (h.linked hn).congr hs⟩

end Built

/-! ## Nodes under construction -/

/-- What has become of the forest in which a build began. -/
structure Since (start dom : Dom) : Prop where
  isForest : dom.IsForest
  issued_le : start.issued ≤ dom.issued
  contains : ∀ {id}, id.index < start.issued → dom.contains id = start.contains id

/-- The build has come to the content of a new element. -/
structure Under (start dom : Dom) (node : NodeId) : Prop extends Since start dom where
  isOpen : Open dom node
  isNew : start.issued ≤ node.index

section

variable {start dom middle : Dom} {node child : NodeId} {elements : List Element}
  {links : List Link} {config : BuildConfig}

theorem Since.grown (h : Since start dom) (hg : dom.GrownBy elements links middle) :
    Since start middle where
  isForest := hg.isForest
  issued_le := by
    rw [hg.issued]
    exact Nat.le_add_right_of_le h.issued_le
  contains hid := (hg.contains_eq (Nat.lt_of_lt_of_le hid h.issued_le)).trans (h.contains hid)

/-- An element is open until it is linked itself. -/
theorem Under.grown (h : Under start dom node) (hg : dom.GrownBy elements links middle)
    (hn : node ∉ links.map Link.child) : Under start middle node where
  toSince := h.toSince.grown hg
  isOpen.live := hg.contains h.isOpen.live
  isOpen.parent? := by rw [hg.parent?, Link.holder?_eq_none hn, Option.none_or, h.isOpen.parent?]
  isNew := h.isNew

theorem Under.modifyElement (h : Under start dom node) (change : Element → Element) :
    Under start (dom.modifyElement node change) node where
  isForest := h.isForest.modifyElement node change
  issued_le := by rw [Dom.issued_modifyElement]; exact h.issued_le
  contains hid := (dom.contains_modifyElement node change _).trans (h.contains hid)
  isOpen := h.isOpen.modifyElement change
  isNew := h.isNew

/-- An element that has just been made. -/
theorem Since.under_insert (h : Since start dom) (element : Element) :
    Under start (dom.insert element).2 ⟨dom.issued⟩ where
  toSince := h.grown (.insert h.isForest element)
  isOpen := open_insert h.isForest element
  isNew := h.issued_le

theorem Under.ne (h : Under start dom node) (hc : child.index < start.issued) : child ≠ node := by
  rintro rfl
  exact Nat.lt_irrefl _ (Nat.lt_of_lt_of_le hc h.isNew)

/-- An open element has no ancestors, so that any other live node can be put below it. -/
theorem Open.appendChild (ho : Open dom node) (hne : child ≠ node) :
    dom.appendChild node child =
      if dom.contains child then .ok ((dom.detach child).attach node child)
      else .error .nodeNotFound := by
  have hroot : dom.ancestors node = [] := by
    unfold Dom.ancestors
    cases dom.issued <;> simp [Dom.ancestorsUpTo, ho.parent?]
  by_cases hc : dom.contains child <;>
    simp [Dom.appendChild, ho.live, hc, hroot, Ne.symm hne]

/-- Any live node but itself can be put below an open element. -/
theorem Under.append_live (hu : Under start dom node) (hne : child ≠ node)
    (hc : dom.contains child) {parts : List (Part NodeId)}
    (hn : parts.findSome? (Part.fault? config start.contains) = none)
    (he : Part.elements parts = []) :
    (act (Target.appendChild node child) : Build Dom DomFault Unit).Ends dom
      (Built config start.contains parts [⟨node, child⟩] () dom) := by
  have ha := (hu.isOpen.appendChild hne).trans (if_pos hc)
  refine (step_endsIn ha).ends (.of_none hn rfl ?_)
  rw [he]
  exact .appendChild hu.isForest ha

/-- A node of before is put below an open element unless it is gone. -/
theorem Under.append_held (hu : Under start dom node) (hc : child.index < start.issued) :
    (act (Target.appendChild node child) : Build Dom DomFault Unit).Ends dom
      (Built config start.contains [.held child] [⟨node, child⟩] () dom) := by
  have hlive := hu.contains hc
  by_cases hl : start.contains child
  · refine hu.append_live (hu.ne hc) (hlive.trans hl) ?_ rfl
    rw [List.findSome?_singleton, Part.fault?, if_pos hl]
  · have ha := (hu.isOpen.appendChild (hu.ne hc)).trans (if_neg (hlive ▸ hl))
    refine (step_endsIn_error ha).ends (.of_some ?_ hu.isForest)
    rw [Part.fault?, if_neg hl]

end

/-! ## Items -/

section

variable {start dom middle : Dom} {node : NodeId} {item : Template NodeId}

variable (hu : Under start dom node) (hh : ∀ id ∈ item.handles, id.index < start.issued)

include hu hh

/-- The element around an item is older than its elements and newer than its embedded nodes. -/
theorem Under.notMem_links : node ∉ (item.links dom.issued).map Link.child := by
  intro hm
  rcases item.mem_links hm with hm | hm
  · exact hu.ne (hh node (item.embedded_subset hm)) rfl
  · exact Nat.lt_asymm hm (dom.index_lt_issued hu.isOpen.live)

theorem Under.nodeAt_ne : item.nodeAt dom.issued ≠ node := by
  cases item with
  | element text content =>
      rintro rfl
      exact Nat.lt_irrefl _ (dom.index_lt_issued hu.isOpen.live)
  | node handle => exact hu.ne (hh handle (List.mem_singleton_self handle))

/-- The link to an item could as well be made before the links inside it. -/
theorem Under.same_links (links : List Link) :
    Link.Same (item.links dom.issued ++ ([⟨node, item.nodeAt dom.issued⟩] ++ links))
      (⟨node, item.nodeAt dom.issued⟩ :: (item.links dom.issued ++ links)) := by
  rw [← List.append_assoc]
  refine (Link.same_cons ?_ ?_).append_right links
  · cases item with
    | element text content =>
        intro hm
        rcases Template.mem_links (.element text content) hm with hm | hm
        · exact absurd (hh _ hm) (Nat.not_lt.mpr hu.issued_le)
        · exact Nat.lt_irrefl _ hm
    | node handle => exact List.not_mem_nil
  · rintro link hl rfl
    have hge := (mem_newIds.mp (item.holder_mem dom.issued link hl)).1
    exact absurd (dom.index_lt_issued hu.isOpen.live) (Nat.not_lt.mpr hge)

variable {config : BuildConfig} {depth : Nat} (hg : dom.GrownBy
  (Part.elements (item.parts config.defaultTag depth)) (item.links dom.issued) middle)

include hg

/-- A finished item is put below its element. -/
theorem Under.append_item :
    (act (Target.appendChild node (item.nodeAt dom.issued)) : Build Dom DomFault Unit).Ends middle
      (Built config start.contains (item.held?.toList.map .held)
        [⟨node, item.nodeAt dom.issued⟩] () middle) := by
  have hm : Under start middle node := hu.grown hg (hu.notMem_links hh)
  cases item with
  | element text content =>
      refine hm.append_live (hu.nodeAt_ne hh) ?_ rfl rfl
      have hfirst : 0 < (Part.elements
          ((Template.element text content).parts config.defaultTag depth)).length := Nat.succ_pos _
      exact hg.contains_new hfirst
  | node handle => exact hm.append_held (hh handle (List.mem_singleton_self handle))

end

/-! ## Whole templates -/

variable (config : BuildConfig) {start : Dom}

-- By induction on the template. Failing builds are part of the statements, since a fault deep
-- inside a template ends the builds of all elements around it.
mutual

theorem template_built : ∀ (item : Template NodeId) (depth : Nat) {dom : Dom},
    (∀ id ∈ item.handles, id.index < start.issued) → Since start dom →
    (template config depth item : Build Dom DomFault NodeId).Ends dom
      (Built config start.contains (item.parts config.defaultTag depth) (item.links dom.issued)
        (item.nodeAt dom.issued) dom)
  | .node handle, _, _, _, hs => Built.pure hs.isForest handle
  | .element text value, depth, dom, hh, hs => by
      rw [template, Template.parts]
      by_cases hd : config.maxDepth ≤ depth
      · refine (startElement_of_too_deep hd).bind_error (.of_some ?_ hs.isForest)
        rw [Part.fault?, if_pos hd]
      by_cases ht : isValidTagName (Selector.parseWith config.defaultTag text).tag
      · refine (startElement_endsIn value.kind (by omega) ht).bind_ok ?_
        have hpart : [Part.element depth (value.element
            (Selector.parseWith config.defaultTag text))].findSome?
              (Part.fault? config start.contains) = none := by
          rw [List.findSome?_singleton, Part.fault?, if_neg hd, Content.element_tag, if_pos ht]
        have hc := content_built value depth hh
          (hs.under_insert (Selector.parseWith config.defaultTag text).element)
          (children_of_insert hs.isForest _)
        rw [Dom.issued_insert, Dom.modifyElement_insert, Content.applyTo_element] at hc
        refine (Built.bind_pure hc _).imp fun result after hb => ?_
        exact hb.after_grown hpart (.insert hs.isForest _)
      · have hc := (Dom.run_createElement dom _).trans (if_neg ht)
        refine (startElement_of_refused (by omega) hc).bind_error (.of_some ?_ hs.isForest)
        rw [Part.fault?, if_neg hd, Content.element_tag, if_neg ht]

theorem content_built : ∀ (value : Content NodeId) (depth : Nat) {dom : Dom} {node : NodeId},
    (∀ id ∈ value.handles, id.index < start.issued) → Under start dom node →
    dom.children node = [] →
    (content config depth node value : Build Dom DomFault Unit).Ends dom
      (Built config start.contains (value.parts config.defaultTag (depth + 1))
        (value.links node dom.issued) () (dom.modifyElement node (Content.applyTo · value)))
  | .text text, _, dom, node, _, hu, hc => by
      refine (setText_endsIn hu.isOpen.live hc text).ends (.of_none rfl rfl ?_)
      exact .refl (hu.isForest.modifyElement node _)
  | .bag ⟨properties, templates⟩, depth, dom, node, hh, hu, hc => by
      refine (applyProperties_endsIn hu.isOpen.live hc properties).bind_ok ?_
      have happly : (Content.applyTo · (.bag ⟨properties, templates⟩ : Content NodeId)) =
          (properties.foldl Property.applyTo ·) :=
        funext fun element => (element.foldl_applyTo properties).symm
      have hr := children_built templates depth hh
        (hu.modifyElement (properties.foldl Property.applyTo ·))
      rw [Dom.issued_modifyElement] at hr
      rw [happly]
      exact hr
  | .items templates, depth, dom, node, hh, hu, _ => by
      have happly : (Content.applyTo · (.items templates)) = (·) := rfl
      rw [happly, dom.modifyElement_id]
      exact children_built templates depth hh hu
  | .node handle, _, dom, node, hh, hu, _ => by
      have happly : (Content.applyTo · (.node handle)) = (·) := rfl
      rw [happly, dom.modifyElement_id]
      exact hu.append_held (hh handle (List.mem_singleton_self handle))

theorem children_built : ∀ (items : List (Template NodeId)) (depth : Nat) {dom : Dom}
    {node : NodeId}, (∀ id ∈ Template.handlesOf items, id.index < start.issued) →
    Under start dom node →
    (children config depth node items : Build Dom DomFault Unit).Ends dom
      (Built config start.contains (Template.partsOf config.defaultTag (depth + 1) items)
        (Template.linksOf node dom.issued items) () dom)
  | [], _, _, _, _, hu => Built.pure hu.isForest ()
  | item :: rest, depth, dom, node, hh, hu => by
      rw [children, Template.partsOf, Template.linksOf, List.append_assoc]
      have hitem : ∀ id ∈ item.handles, id.index < start.issued := fun id hid =>
        hh id (List.mem_append_left _ hid)
      have hrest : ∀ id ∈ Template.handlesOf rest, id.index < start.issued := fun id hid =>
        hh id (List.mem_append_right _ hid)
      refine Ends.imp (Built.bind (template_built item (depth + 1) hitem hu.toSince) fun middle hg =>
        Built.bind (hu.append_item hitem hg) fun after ha => ?_)
        fun _ _ hb => hb.congr (hu.same_links hitem _)
      have hissued : after.issued = dom.issued + item.count := by
        rw [ha.issued, hg.issued, Part.elements_map_held, Template.length_elements]
        rfl
      rw [← hissued]
      refine children_built rest depth hrest ((hu.grown hg (hu.notMem_links hitem)).grown ha ?_)
      simpa using (hu.nodeAt_ne hitem).symm

end

end Build

end TemplateTree
