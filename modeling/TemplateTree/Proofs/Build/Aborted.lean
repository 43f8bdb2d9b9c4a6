import TemplateTree.Proofs.Template.Unfinished

/-! # Builds that are aborted

A build that fails leaves all nodes of before as they are. Of its own nodes it leaves the
finished items and, as roots, the elements that have been begun around the one at fault. -/

namespace TemplateTree

namespace Build

variable {α : Type} {config : BuildConfig} {start dom : Dom} {fault : BuildFault DomFault}

/-- Ending with a fault when these parts have been built and these links have been made. -/
def Aborted (fault : BuildFault DomFault) (parts : List (Part NodeId)) (links : List Link)
    (before : Dom) (result : Except (BuildFault DomFault) α) (after : Dom) : Prop :=
  result = .error fault ∧ before.GrownBy (Part.elements parts) links after

theorem children_append {σ ν ε : Type} [Target σ ν ε] (config : BuildConfig) (depth : Nat)
    (node : ν) (first second : List (Template ν)) :
    (children config depth node (first ++ second) : Build σ ε Unit) = (do
      children config depth node first
      children config depth node second) := by
  induction first with
  | nil => rw [List.nil_append, children, pure_bind]
  | cons item rest ih =>
      rw [List.cons_append, children, children, ih]
      simp only [bind_assoc]

/-- An element at fault is not even begun. -/
theorem element_aborted {depth : Nat} {text : String} {value : Content NodeId} (hf : dom.IsForest)
    (h : (Part.element depth (value.element
      (Selector.parseWith config.defaultTag text))).fault? config start.contains = some fault) :
    (template config depth (.element text value) : Build Dom DomFault NodeId).Ends dom
      (Aborted fault [] [] dom) := by
  rw [template]
  rw [Part.fault?, Content.element_tag] at h
  split_ifs at h with hd ht
  · cases h
    exact (startElement_of_too_deep hd).bind_error ⟨rfl, .refl hf⟩
  · cases h
    have hc := (Dom.run_createElement dom _).trans (if_neg ht)
    exact (startElement_of_refused (Nat.lt_of_not_le hd) hc).bind_error ⟨rfl, .refl hf⟩

/-- The items before the one that is aborted are finished. -/
theorem children_aborted {depth : Nat} {node : NodeId} {before : List (Template NodeId)}
    {item : Template NodeId} (after : List (Template NodeId)) {parts : List (Part NodeId)}
    (links : Nat → List Link) (hu : Under start dom node) (hh : Template.handlesOf before = [])
    (hn : (Template.partsOf config.defaultTag (depth + 1) before).findSome?
      (Part.fault? config start.contains) = none)
    (hitem : ∀ middle, Since start middle →
      (template config (depth + 1) item : Build Dom DomFault NodeId).Ends middle
        (Aborted fault parts (links middle.issued) middle)) :
    (children config depth node (before ++ item :: after) : Build Dom DomFault Unit).Ends dom
      (Aborted fault (Template.partsOf config.defaultTag (depth + 1) before ++ parts)
        (Template.linksOf node dom.issued before ++
          links (dom.issued + Template.countOf before)) dom) := by
  rw [children_append, children]
  have hbefore := children_built config before depth (by simp [hh]) hu
  refine hbefore.bind ?_ ?_
  · intro _ middle hb
    have hg := hb.linked hn
    have hissued : middle.issued = dom.issued + Template.countOf before := by
      rw [hg.issued, Template.length_elementsOf]
    have hm := hitem middle (hu.toSince.grown hg)
    refine hm.bind (fun _ _ hok => nomatch hok.1) fun _ last hab => ?_
    obtain ⟨hr, hl⟩ := hab
    rw [hissued] at hl
    refine ⟨congrArg Except.error (Except.error.inj hr), ?_⟩
    rw [Part.elements_append]
    exact hg.trans hl
  · intro other middle hb
    have hsome := FirstFault.outcome_eq_error hb.result_eq
    rw [hn] at hsome
    cases hsome

section

variable {depth : Nat} {templates : List (Template NodeId)} {selector : Selector}
  {post : Except (BuildFault DomFault) Unit → Dom → Prop}

/-- A new element has all its properties before it gets its first child. -/
theorem bag_ends {properties : List Property} (hf : dom.IsForest)
    (h : (children config depth ⟨dom.issued⟩ templates).Ends
      (dom.insert (Content.element selector (.bag ⟨properties, templates⟩))).2 post) :
    (content config depth ⟨dom.issued⟩ (.bag ⟨properties, templates⟩)).Ends
      (dom.insert selector.element).2 post := by
  rw [content]
  refine (applyProperties_endsIn (by simp) (children_of_insert hf _) properties).bind_ok ?_
  have happly : (Content.applyTo · (.bag ⟨properties, templates⟩ : Content NodeId)) =
      (properties.foldl Property.applyTo ·) :=
    funext fun element => (element.foldl_applyTo properties).symm
  rwa [← happly, Dom.modifyElement_insert, Content.applyTo_element]

theorem items_ends (h : (children config depth ⟨dom.issued⟩ templates).Ends
      (dom.insert (Content.element selector (.items templates))).2 post) :
    (content config depth ⟨dom.issued⟩ (.items templates)).Ends
      (dom.insert selector.element).2 post := by
  rwa [content, ← Content.applyTo_element selector (.items templates)] at *

end

/-- An element is begun with all that its selector and its properties give. -/
theorem element_begun {depth : Nat} {text : String} {value : Content NodeId}
    {parts : List (Part NodeId)} {links : List Link} (hf : dom.IsForest)
    (hfirst : (Part.element depth (value.element
      (Selector.parseWith config.defaultTag text))).fault? config start.contains = none)
    (hcontent : (content config depth ⟨dom.issued⟩ value : Build Dom DomFault Unit).Ends
      (dom.insert (Selector.parseWith config.defaultTag text).element).2
      (Aborted fault parts links
        (dom.insert (value.element (Selector.parseWith config.defaultTag text))).2)) :
    (template config depth (.element text value) : Build Dom DomFault NodeId).Ends dom
      (Aborted fault
        (.element depth (value.element (Selector.parseWith config.defaultTag text)) :: parts)
        links dom) := by
  rw [Part.fault?, Content.element_tag] at hfirst
  split_ifs at hfirst with hd ht
  rw [template]
  refine (startElement_endsIn value.kind (Nat.lt_of_not_le hd) ht).bind_ok ?_
  refine hcontent.bind (fun _ _ hok => nomatch hok.1) fun _ last hab => ?_
  obtain ⟨hr, hl⟩ := hab
  exact ⟨congrArg Except.error (Except.error.inj hr), (Dom.GrownBy.insert hf _).trans hl⟩

theorem handles_around {before after : List (Template NodeId)} {item : Template NodeId}
    (h : Template.handlesOf (before ++ item :: after) = []) :
    Template.handlesOf before = [] ∧ item.handles = [] ∧ Template.handlesOf after = [] := by
  rwa [Template.handlesOf_append, Template.handlesOf, List.append_eq_nil_iff,
    List.append_eq_nil_iff] at h

/-- The items of an element that has just been begun, up to the one that is aborted. -/
theorem items_aborted {depth : Nat} (element : Element) {before : List (Template NodeId)}
    {item : Template NodeId} (after : List (Template NodeId)) {parts : List (Part NodeId)}
    (links : Nat → List Link) (hs : Since start dom) (hh : Template.handlesOf before = [])
    (hn : ∀ part ∈ Template.partsOf config.defaultTag (depth + 1) before,
      part.fault? config start.contains = none)
    (hitem : ∀ middle, Since start middle →
      (template config (depth + 1) item : Build Dom DomFault NodeId).Ends middle
        (Aborted fault parts (links middle.issued) middle)) :
    (children config depth ⟨dom.issued⟩ (before ++ item :: after) :
      Build Dom DomFault Unit).Ends (dom.insert element).2
      (Aborted fault (Template.partsOf config.defaultTag (depth + 1) before ++ parts)
        (Template.linksOf ⟨dom.issued⟩ (dom.issued + 1) before ++
          links (dom.issued + (Template.countOf before + 1))) (dom.insert element).2) := by
  have hc := children_aborted after links (hs.under_insert element) hh
    (List.findSome?_eq_none_iff.mpr hn) hitem
  rw [Dom.issued_insert] at hc
  rwa [Nat.add_comm (Template.countOf before), ← Nat.add_assoc]

/-- What is left when the build gets to an element at fault. -/
theorem place_aborted {text : String} {value : Content NodeId} (place : Place NodeId) (depth : Nat)
    (hh : (place.fill (.element text value)).handles = []) (hs : Since start dom)
    (hn : ∀ part ∈ Template.partsDown config.defaultTag depth place.begun,
      part.fault? config start.contains = none)
    (hfault : (Part.element (depth + place.levels) (value.element
      (Selector.parseWith config.defaultTag text))).fault? config start.contains = some fault) :
    (template config depth (place.fill (.element text value)) :
      Build Dom DomFault NodeId).Ends dom
      (Aborted fault (Template.partsDown config.defaultTag depth place.begun)
        (Template.linksDown dom.issued place.begun) dom) := by
  induction place generalizing depth dom with
  | here => exact element_aborted hs.isForest hfault
  | inBag selector properties before inner after ih =>
      obtain ⟨hbefore, hinner, -⟩ := handles_around hh
      rw [Place.begun, Template.partsDown, List.forall_mem_append, Template.parts,
        List.forall_mem_cons] at hn
      obtain ⟨⟨hfirst, hitems⟩, hrest⟩ := hn
      rw [Place.levels, Nat.add_comm inner.levels, ← Nat.add_assoc] at hfault
      exact element_begun hs.isForest hfirst (bag_ends hs.isForest (items_aborted _ after
        (Template.linksDown · inner.begun) hs hbefore hitems
          fun middle hm => ih (depth + 1) hinner hm hrest hfault))
  | inItems selector before inner after ih =>
      obtain ⟨hbefore, hinner, -⟩ := handles_around hh
      rw [Place.begun, Template.partsDown, List.forall_mem_append, Template.parts,
        List.forall_mem_cons] at hn
      obtain ⟨⟨hfirst, hitems⟩, hrest⟩ := hn
      rw [Place.levels, Nat.add_comm inner.levels, ← Nat.add_assoc] at hfault
      exact element_begun hs.isForest hfirst (items_ends (items_aborted _ after
        (Template.linksDown · inner.begun) hs hbefore hitems
          fun middle hm => ih (depth + 1) hinner hm hrest hfault))

end Build

end TemplateTree
