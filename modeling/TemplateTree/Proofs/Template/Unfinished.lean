import TemplateTree.Proofs.Build.Trees
import TemplateTree.Proofs.Template.Expressible
import TemplateTree.Proofs.Template.Place

/-! # Elements that have been begun

What a build finds when it comes to an item: the elements around the item have been begun, each
with the items before it as children. They are linked to each other only when they are
finished, so until then each of them is the root of a tree of its own. -/

namespace TemplateTree

section

variable {ν : Type}

/-- The elements around the hole with the items before it, from the outermost on. -/
def Place.begun : Place ν → List (Template ν)
  | here => []
  | inBag selector properties before inner _ =>
    .element selector (.bag ⟨properties, before⟩) :: inner.begun
  | inItems selector before inner _ => .element selector (.items before) :: inner.begun

/-- The parts of elements that have been begun inside each other. -/
def Template.partsDown (defaultTag : String) (depth : Nat) : List (Template ν) → List (Part ν)
  | [] => []
  | outer :: rest =>
    outer.parts defaultTag depth ++ Template.partsDown defaultTag (depth + 1) rest

end

/-- The links below elements that have been begun; there are none between them. -/
def Template.linksDown (next : Nat) : List (Template NodeId) → List Link
  | [] => []
  | outer :: rest => outer.links next ++ Template.linksDown (next + outer.count) rest

/-- The nodes of elements that have been begun, with their trees so far. -/
def Template.rootsDown (config : BuildConfig) (held : NodeId → ElementTree) (next : Nat) :
    List (Template NodeId) → List (NodeId × ElementTree)
  | [] => []
  | outer :: rest => (outer.nodeAt next, outer.tree config held) ::
      Template.rootsDown config held (next + outer.count) rest

/-! ## The first part at fault -/

section

variable {ν φ : Type} {fault? : Part ν → Option φ} {fault : φ} {defaultTag : String}

theorem Template.exists_of_partsOf {templates : List (Template ν)} {depth : Nat}
    (hh : handlesOf templates = [])
    (h : (partsOf defaultTag depth templates).findSome? fault? = some fault) :
    ∃ before item after, templates = before ++ item :: after ∧
      (partsOf defaultTag depth before).findSome? fault? = none ∧
      (item.parts defaultTag depth).findSome? fault? = some fault := by
  induction templates with
  | nil => cases h
  | cons item rest ih =>
      obtain ⟨hitem, hrest⟩ := List.append_eq_nil_iff.mp hh
      obtain ⟨selector, content, rfl⟩ := exists_of_handles_eq_nil hitem
      rw [partsOf, held?, Option.toList_none, List.map_nil, List.append_nil,
        List.findSome?_append] at h
      cases hf : ((element selector content).parts defaultTag depth).findSome? fault? with
      | some first =>
          rw [hf, Option.some_or] at h
          exact ⟨[], _, rest, rfl, rfl, hf.trans h⟩
      | none =>
          rw [hf, Option.none_or] at h
          obtain ⟨before, item, after, rfl, hb, hi⟩ := ih hrest h
          refine ⟨element selector content :: before, item, after, rfl, ?_, hi⟩
          rw [partsOf, held?, Option.toList_none, List.map_nil, List.append_nil,
            List.findSome?_append, hf, hb]
          rfl

/-- That the first part at fault is an element at some place, and that nothing that is begun or
finished before it is at fault. -/
def Template.StopsAt (fault? : Part ν → Option φ) (fault : φ) (defaultTag : String) (depth : Nat)
    (template : Template ν) : Prop :=
  ∃ place text content, template = Place.fill (.element text content) place ∧
    (partsDown defaultTag depth place.begun).findSome? fault? = none ∧
    fault? (.element (depth + place.levels)
      (content.element (Selector.parseWith defaultTag text))) = some fault

namespace Template.StopsAt

variable {selector : String} {content : Content ν} {depth : Nat}

theorem here (h : fault? (.element depth
    (content.element (Selector.parseWith defaultTag selector))) = some fault) :
    StopsAt fault? fault defaultTag depth (.element selector content) :=
  ⟨.here, selector, content, rfl, rfl, h⟩

variable {before after : List (Template ν)} {item : Template ν}

/-- One more element is begun around a place, and there is no fault up to its items. -/
theorem around {place inner : Place ν} {outer : Template ν} {element : Element}
    (hbegun : place.begun = outer :: inner.begun) (hlevels : place.levels = inner.levels + 1)
    (houter : (outer.parts defaultTag depth).findSome? fault? = none)
    (hinner : (partsDown defaultTag (depth + 1) inner.begun).findSome? fault? = none)
    (h : fault? (.element (depth + 1 + inner.levels) element) = some fault) :
    (partsDown defaultTag depth place.begun).findSome? fault? = none ∧
      fault? (.element (depth + place.levels) element) = some fault := by
  rw [hbegun, partsDown, List.findSome?_append, houter, hinner, hlevels,
    Nat.add_comm inner.levels, ← Nat.add_assoc]
  exact ⟨rfl, h⟩

theorem inBag {properties : List Property}
    (hfirst : fault? (.element depth (Content.element (Selector.parseWith defaultTag selector)
      (.bag ⟨properties, before ++ item :: after⟩))) = none)
    (hbefore : (partsOf defaultTag (depth + 1) before).findSome? fault? = none)
    (h : StopsAt fault? fault defaultTag (depth + 1) item) :
    StopsAt fault? fault defaultTag depth
      (.element selector (.bag ⟨properties, before ++ item :: after⟩)) := by
  obtain ⟨inner, text, content, rfl, hinner, hf⟩ := h
  have hpart : fault? (.element depth (Content.element (Selector.parseWith defaultTag selector)
      (.bag ⟨properties, before⟩))) = none := hfirst
  have houter : ((element selector (.bag ⟨properties, before⟩)).parts defaultTag depth).findSome?
      fault? = none := by
    rw [parts, List.findSome?_cons, hpart]
    exact hbefore
  exact ⟨.inBag selector properties before inner after, text, content, rfl,
    around rfl rfl houter hinner hf⟩

theorem inItems
    (hfirst : fault? (.element depth (Content.element (Selector.parseWith defaultTag selector)
      (.items (before ++ item :: after)))) = none)
    (hbefore : (partsOf defaultTag (depth + 1) before).findSome? fault? = none)
    (h : StopsAt fault? fault defaultTag (depth + 1) item) :
    StopsAt fault? fault defaultTag depth
      (.element selector (.items (before ++ item :: after))) := by
  obtain ⟨inner, text, content, rfl, hinner, hf⟩ := h
  have hpart : fault? (.element depth (Content.element (Selector.parseWith defaultTag selector)
      (.items before))) = none := hfirst
  have houter : ((element selector (.items before)).parts defaultTag depth).findSome? fault? =
      none := by
    rw [parts, List.findSome?_cons, hpart]
    exact hbefore
  exact ⟨.inItems selector before inner after, text, content, rfl,
    around rfl rfl houter hinner hf⟩

end Template.StopsAt

/-- By induction on the template: the first part at fault is its first element, or the first
one in the first of its items that has one. -/
theorem Template.stopsAt (template : Template ν) (depth : Nat) (hh : template.handles = [])
    (h : (template.parts defaultTag depth).findSome? fault? = some fault) :
    template.StopsAt fault? fault defaultTag depth := by
  induction template using Template.inductionOn generalizing depth with
  | node handle => cases hh
  | held selector handle => cases hh
  | text selector text =>
      rw [parts, List.findSome?_cons] at h
      split at h
      · next first hfirst => exact .here (hfirst.trans h)
      · cases h
  | bag selector properties templates ih =>
      rw [parts, List.findSome?_cons] at h
      split at h
      · next first hfirst => exact .here (hfirst.trans h)
      · next hfirst =>
          obtain ⟨before, item, after, rfl, hbefore, hitem⟩ := exists_of_partsOf hh h
          have hm : item ∈ before ++ item :: after := List.mem_append_cons_self
          exact .inBag hfirst hbefore
            (ih item hm (depth + 1) (handlesOf_eq_nil_iff.mp hh item hm) hitem)
  | items selector templates ih =>
      rw [parts, List.findSome?_cons] at h
      split at h
      · next first hfirst => exact .here (hfirst.trans h)
      · next hfirst =>
          obtain ⟨before, item, after, rfl, hbefore, hitem⟩ := exists_of_partsOf hh h
          have hm : item ∈ before ++ item :: after := List.mem_append_cons_self
          exact .inItems hfirst hbefore
            (ih item hm (depth + 1) (handlesOf_eq_nil_iff.mp hh item hm) hitem)

/-- An element comes behind everything that is begun or finished before it. -/
theorem Place.exists_parts_fill (defaultTag : String) (place : Place ν) (depth : Nat)
    (text : String) (content : Content ν) :
    ∃ later, (place.fill (.element text content)).parts defaultTag depth =
      Template.partsDown defaultTag depth place.begun ++
        .element (depth + place.levels) (content.element (Selector.parseWith defaultTag text)) ::
          later := by
  induction place generalizing depth with
  | here => exact ⟨_, rfl⟩
  | inBag _ _ before inner after ih | inItems _ before inner after ih =>
      obtain ⟨later, hlater⟩ := ih (depth + 1)
      refine ⟨later ++ ((inner.fill (.element text content)).held?.toList.map .held ++
        Template.partsOf defaultTag (depth + 1) after), ?_⟩
      rw [fill, begun, Template.partsDown, Template.parts, Template.parts, Content.parts,
        Content.parts, Template.partsOf_append, Template.partsOf, hlater, levels,
        Nat.add_comm inner.levels, ← Nat.add_assoc]
      simp only [List.cons_append, List.append_assoc]
      rfl

theorem Place.handlesOf_begun {place : Place ν} {item : Template ν}
    (h : (place.fill item).handles = []) : Template.handlesOf place.begun = [] := by
  induction place with
  | here => rfl
  | inBag _ _ before inner after ih | inItems _ before inner after ih =>
      rw [fill, Template.handles, Content.handles, Template.handlesOf_append, Template.handlesOf,
        List.append_eq_nil_iff, List.append_eq_nil_iff] at h
      obtain ⟨hbefore, hinner, -⟩ := h
      rw [begun, Template.handlesOf, Template.handles, Content.handles, hbefore, ih hinner]
      rfl

theorem Template.length_partsDown (defaultTag : String) (depth : Nat)
    (begun : List (Template ν)) :
    (Part.elements (partsDown defaultTag depth begun)).length = countOf begun := by
  induction begun generalizing depth with
  | nil => rfl
  | cons outer rest ih =>
      rw [partsDown, Part.elements_append, List.length_append, length_elements, ih, countOf]

end

/-! ## Nodes and trees -/

namespace Template

variable {config : BuildConfig} {held : NodeId → ElementTree}

/-- The new nodes are those of the elements that have been begun and those that are linked. -/
theorem rootsDown_perm (config : BuildConfig) (held : NodeId → ElementTree)
    {begun : List (Template NodeId)} (hh : handlesOf begun = []) (next : Nat) :
    ((rootsDown config held next begun).map Prod.fst ++ (linksDown next begun).map Link.child).Perm
      (newIds next (countOf begun)) := by
  induction begun generalizing next with
  | nil => exact .refl []
  | cons outer rest ih =>
      obtain ⟨houter, hrest⟩ := List.append_eq_nil_iff.mp hh
      have hfirst := outer.nodes_perm next
      rw [houter, List.nil_append] at hfirst
      rw [rootsDown, linksDown, countOf, newIds_add, List.map_cons, List.map_append,
        List.cons_append]
      refine List.Perm.trans ?_ (hfirst.append (ih hrest (next + outer.count)))
      rw [List.cons_append, ← List.append_assoc, ← List.append_assoc]
      exact (List.perm_append_comm.append_right _).cons _

theorem holderDown_mem {begun : List (Template NodeId)} {next : Nat} :
    ∀ link ∈ linksDown next begun, link.holder ∈ newIds next (countOf begun) := by
  induction begun generalizing next with
  | nil => nofun
  | cons outer rest ih =>
      intro link hl
      rw [countOf, newIds_add, List.mem_append]
      rcases List.mem_append.mp hl with hl | hl
      · exact .inl (outer.holder_mem next link hl)
      · exact .inr (ih link hl)

/-- What has been begun shows as trees of its own, each with the items before the hole. -/
theorem tree?_of_mem_rootsDown {dom : Dom} (hf : dom.IsForest) {begun : List (Template NodeId)}
    (hh : handlesOf begun = []) {depth next : Nat}
    (hs : dom.Shows next (Part.elements (partsDown config.defaultTag depth begun))
      (linksDown next begun)) :
    ∀ root ∈ rootsDown config held next begun, dom.tree? root.1 = some root.2 := by
  induction begun generalizing depth next with
  | nil => nofun
  | cons outer rest ih =>
      obtain ⟨houter, hrest⟩ := List.append_eq_nil_iff.mp hh
      rw [partsDown, Part.elements_append] at hs
      have hcount := length_elements config.defaultTag outer depth
      have hlinks (id : NodeId) : Link.below (linksDown next (outer :: rest)) id =
          Link.below (outer.links next) id ++
            Link.below (linksDown (next + outer.count) rest) id := Link.below_append ..
      refine List.forall_mem_cons.mpr ⟨?_, ?_⟩
      · refine tree?_of_shows config outer depth next hf (by simp [houter])
          (hs.left fun id hid => ?_)
        have hnone : Link.below (linksDown (next + outer.count) rest) id = [] := by
          apply Link.below_eq_nil
          rintro link hl rfl
          have hge := (mem_newIds.mp (holderDown_mem link hl)).1
          have hlt := (mem_newIds.mp hid).2
          omega
        rw [hlinks, hnone, List.append_nil]
      · refine ih hrest (hcount ▸ hs.right fun id hid => ?_)
        have hnone : Link.below (outer.links next) id = [] := by
          apply below_links_of_notMem
          rw [mem_newIds] at hid ⊢
          omega
        rw [hlinks, hnone, List.nil_append]

end Template

end TemplateTree
