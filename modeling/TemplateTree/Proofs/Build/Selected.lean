import TemplateTree.Proofs.Build.Growth
import TemplateTree.Proofs.Dom.Append
import TemplateTree.Proofs.Dom.Selection
import TemplateTree.Proofs.Text.Words

/-! # Elements found by their selectors

A build writes to an element while it is new and never again, whatever nodes the template
embeds. So the root of a template keeps what its selector and its content gave it, and a search
with the same selector finds it first. -/

namespace TemplateTree

/-! ## Elements of earlier nodes -/

/-- The forest has grown, and the nodes of before have the elements that they had. -/
structure Dom.KeepsElements (before after : Dom) : Prop where
  isForest : after.IsForest
  issued_le : before.issued ≤ after.issued
  element? : ∀ {id : NodeId}, id.index < before.issued → after.element? id = before.element? id

namespace Dom.KeepsElements

variable {before middle after dom : Dom}

theorem refl (hf : dom.IsForest) : dom.KeepsElements dom :=
  ⟨hf, Nat.le_refl _, fun _ => rfl⟩

theorem trans (h₁ : before.KeepsElements middle) (h₂ : middle.KeepsElements after) :
    before.KeepsElements after where
  isForest := h₂.isForest
  issued_le := Nat.le_trans h₁.issued_le h₂.issued_le
  element? hid := (h₂.element? (Nat.lt_of_lt_of_le hid h₁.issued_le)).trans (h₁.element? hid)

theorem insert (hf : dom.IsForest) (element : Element) :
    dom.KeepsElements (dom.insert element).2 where
  isForest := hf.insert element
  issued_le := by simp
  element? hid := (Agree.insert hf element).element? hid

theorem appendChild (hf : dom.IsForest) {parent child : NodeId}
    (h : dom.appendChild parent child = .ok after) : dom.KeepsElements after where
  isForest := hf.appendChild h
  issued_le := by
    obtain ⟨-, -, -, -, rfl⟩ := dom.appendChild_eq_ok h
    simp
  element? _ := congrFun (element?_of_appendChild h) _

end Dom.KeepsElements

namespace Build

variable {σ ε α β : Type}

/-- The build, when it succeeds, gives a result and a target with `post`. -/
def Gives (build : Build σ ε α) (target : σ) (post : α → σ → Prop) : Prop :=
  build.Ends target fun result after => ∀ a, result = .ok a → post a after

namespace Gives

variable {build : Build σ ε α} {target : σ} {post : α → σ → Prop}

theorem pure {a : α} (h : post a target) : (Pure.pure a : Build σ ε α).Gives target post :=
  Ends.pure fun _ hok => Except.ok.inj hok ▸ h

theorem bind {next : α → Build σ ε β} {post' : β → σ → Prop} (h : build.Gives target post)
    (hn : ∀ a after, post a after → (next a).Gives after post') :
    (build >>= next).Gives target post' :=
  Ends.bind h (fun a after ha => hn a after (ha a rfl)) fun _ _ _ _ => nofun

theorem of_endsIn {a : α} {after : σ} (h : build.EndsIn target (.ok a) after)
    (hp : post a after) : build.Gives target post :=
  h.ends fun _ hok => Except.ok.inj hok ▸ hp

theorem of_fault {fault : BuildFault ε} {after : σ} (h : build.EndsIn target (.error fault) after) :
    build.Gives target post := by
  refine h.ends fun a hok => ?_
  cases hok

end Gives

/-! ## What builds write to -/

variable {dom : Dom} {config : BuildConfig} {depth : Nat}

theorem appendChild_keepsElements (hf : dom.IsForest) (parent child : NodeId) :
    (act (Target.appendChild parent child) : Build Dom DomFault Unit).Gives dom
      fun _ after => dom.KeepsElements after := by
  cases h : dom.appendChild parent child with
  | ok after => exact .of_endsIn (step_endsIn h) (.appendChild hf h)
  | error fault => exact .of_fault (step_endsIn_error h)

theorem startElement_gives (text : String) (kind : ContentKind) :
    (startElement config depth text kind : Build Dom DomFault NodeId).Gives dom fun node after =>
      node = ⟨dom.issued⟩ ∧
        after = (dom.insert (Selector.parseWith config.defaultTag text).element).2 := by
  by_cases hd : config.maxDepth ≤ depth
  · exact .of_fault (startElement_of_too_deep hd)
  by_cases ht : isValidTagName (Selector.parseWith config.defaultTag text).tag
  · exact .of_endsIn (startElement_endsIn kind (Nat.lt_of_not_le hd) ht) ⟨rfl, rfl⟩
  · have hc := (Dom.run_createElement dom _).trans (if_neg ht)
    exact .of_fault (startElement_of_refused (Nat.lt_of_not_le hd) hc)

/-- A content that writes to its own node alone makes a new element what it is to be. -/
theorem element_keepsElements (hf : dom.IsForest) (text : String) {value : Content NodeId}
    (hvalue : ∀ {dom : Dom} {node : NodeId}, dom.IsForest → dom.contains node →
      dom.children node = [] → (content config depth node value : Build Dom DomFault Unit).Gives dom
        fun _ after => (dom.modifyElement node (Content.applyTo · value)).KeepsElements after) :
    (template config depth (.element text value) : Build Dom DomFault NodeId).Gives dom
      fun root after => root = ⟨dom.issued⟩ ∧
        (dom.insert (value.element (Selector.parseWith config.defaultTag text))).2.KeepsElements
          after := by
  rw [template]
  refine (startElement_gives text value.kind).bind ?_
  rintro _ _ ⟨rfl, rfl⟩
  refine (hvalue (hf.insert _) (by simp) (children_of_insert hf _)).bind fun _ after h => .pure ?_
  rw [Dom.modifyElement_insert, Content.applyTo_element] at h
  exact ⟨rfl, h⟩

-- The embedded nodes may be any, since appending a node writes to no element.
mutual

theorem template_keepsElements : ∀ (item : Template NodeId) {depth : Nat} {dom : Dom},
    dom.IsForest → (template config depth item : Build Dom DomFault NodeId).Gives dom
      fun _ after => dom.KeepsElements after
  | .node handle, _, _, hf => .pure (.refl hf)
  | .element text value, _, _, hf => by
      refine (element_keepsElements hf text (content_keepsElements value)).imp ?_
      intro _ after h root hok
      exact (Dom.KeepsElements.insert hf _).trans (h root hok).2

theorem content_keepsElements : ∀ (value : Content NodeId) {depth : Nat} {dom : Dom}
    {node : NodeId}, dom.IsForest → dom.contains node → dom.children node = [] →
    (content config depth node value : Build Dom DomFault Unit).Gives dom fun _ after =>
      (dom.modifyElement node (Content.applyTo · value)).KeepsElements after
  | .text text, _, _, node, hf, hl, hc =>
      .of_endsIn (setText_endsIn hl hc text) (.refl (hf.modifyElement node _))
  | .bag ⟨properties, templates⟩, _, _, node, hf, hl, hc => by
      have happly : properties.foldl Property.applyTo =
          (Content.applyTo · (.bag ⟨properties, templates⟩)) := by
        funext element
        exact element.foldl_applyTo properties
      rw [content, ← happly]
      refine (applyProperties_endsIn hl hc properties).bind_ok ?_
      exact children_keepsElements templates (hf.modifyElement node _)
  | .items templates, _, dom, node, hf, _, _ => by
      rw [content]
      exact (dom.modifyElement_id node).symm ▸ children_keepsElements templates hf
  | .node handle, _, dom, node, hf, _, _ => by
      rw [content]
      exact (dom.modifyElement_id node).symm ▸ appendChild_keepsElements hf node handle

theorem children_keepsElements : ∀ (items : List (Template NodeId)) {depth : Nat} {dom : Dom}
    {node : NodeId}, dom.IsForest →
    (children config depth node items : Build Dom DomFault Unit).Gives dom fun _ after =>
      dom.KeepsElements after
  | [], _, _, _, hf => .pure (.refl hf)
  | item :: rest, _, _, node, hf => by
      rw [children]
      refine (template_keepsElements item hf).bind fun root second hs => ?_
      refine (appendChild_keepsElements hs.isForest node root).bind fun _ third ht => ?_
      refine (children_keepsElements rest ht.isForest).imp fun _ after h a hok => ?_
      exact (hs.trans ht).trans (h a hok)

end

end Build

/-! ## Attributes from selectors -/

namespace Element

/-- Other attributes leave the class list and the id alone. -/
theorem setAttributes_of_ne (element : Element) {writes : List (String × String)}
    (h : ∀ write ∈ writes, write.1 ≠ "class" ∧ write.1 ≠ "id") :
    (element.setAttributes writes).classes = element.classes ∧
      (element.setAttributes writes).id = element.id := by
  induction writes generalizing element with
  | nil => exact ⟨rfl, rfl⟩
  | cons write rest ih =>
      rw [List.forall_mem_cons] at h
      have hwrite : element.setAttribute write.1 write.2 =
          { element with attributes := Keyed.put write.1 write.2 element.attributes } := by
        rw [setAttribute, if_neg h.1.2, if_neg h.1.1]
      rw [setAttributes_cons, hwrite]
      exact ih _ h.2

end Element

namespace Selector

/-- A class list of names comes back from the attribute that it is written to. -/
theorem element_classes {selector : Selector} (h : ∀ name ∈ selector.classes, isName name.toList) :
    selector.element.classes = selector.classes := by
  have hwords : Text.words (" ".intercalate selector.classes) = selector.classes :=
    Text.words_intercalate fun name hn => isWord_of_isName (h name hn)
  by_cases hnil : selector.classes = [] <;> cases hid : selector.id <;>
    simp [element, writes, className?, Element.setAttribute, Element.withId, hwords, hnil, hid]

theorem element_id (selector : Selector) : selector.element.id = selector.id := by
  by_cases hnil : selector.classes = [] <;> cases hid : selector.id <;>
    simp [element, writes, className?, Element.setAttribute, Element.withId, hnil, hid]

end Selector

namespace Content

variable {ν : Type} {value : Content ν}

/-- What a content without a class and an id of its own leaves of those of the selector. -/
theorem element_of_writes (h : ∀ write ∈ value.writes, write.1 ≠ "class" ∧ write.1 ≠ "id")
    (selector : Selector) :
    (value.element selector).classes = selector.element.classes ∧
      (value.element selector).id = selector.element.id := by
  rw [element, Element.setAttributes_append]
  exact Element.setAttributes_of_ne _ h

end Content

/-! ## The search -/

namespace Selector

/-- The tag to fall back on decides nothing but the tag of a text without one. -/
theorem parseWith_agree (fallback other text : String) :
    ((parseWith fallback text).tag = fallback ∨
        (parseWith other text).tag = (parseWith fallback text).tag) ∧
      (parseWith other text).classes = (parseWith fallback text).classes ∧
      (parseWith other text).id = (parseWith fallback text).id := by
  obtain ⟨layout, h⟩ := Layout.exists_isOf text
  rw [h.parseWith_eq, h.parseWith_eq]
  refine ⟨?_, rfl, rfl⟩
  by_cases hnil : layout.tag = []
  · exact .inl (if_pos hnil)
  · exact .inr ((if_neg hnil).trans (if_neg hnil).symm)

theorem isName_of_mem_classes {fallback text name : String}
    (h : name ∈ (parseWith fallback text).classes) : isName name.toList := by
  obtain ⟨layout, hl⟩ := Layout.exists_isOf text
  rw [hl.parseWith_eq] at h
  exact Piece.isName_of_mem_names h

/-- An element with the tag, the classes and the id that a text gives it is one that the text
asks for. -/
theorem accepts_of_parseWith {fallback text : String} {found : Element}
    (htag : found.tag = (parseWith fallback text).tag)
    (hclasses : found.classes = (parseWith fallback text).classes)
    (hid : found.id = (parseWith fallback text).id) :
    (parseWith anyTag text).accepts found := by
  obtain ⟨hagree, hc, hi⟩ := parseWith_agree anyTag fallback text
  refine (accepts_iff _ _).mpr ⟨?_, fun id h => ?_, fun name h => ?_⟩
  · exact hagree.imp_right htag.trans
  · rw [hid, hi]
    exact h
  · rw [Element.hasClass, List.contains_iff_mem, hclasses, hc]
    exact h

end Selector

/-- A search that a node itself answers comes to this node first. -/
theorem Dom.IsForest.head?_select {dom : Dom} (hf : dom.IsForest) {root : NodeId} {found : Element}
    {text : String} (h : dom.element? root = some found)
    (ha : (Selector.parseWith anyTag text).accepts found) :
    (dom.select root text).head? = some root := by
  have hlive : dom.contains root := by
    rw [contains, h]
    rfl
  rw [select, hf.walk_eq hlive, List.filter_cons_of_pos, List.head?_cons]
  rw [h]
  exact ha

namespace Template

variable {dom : Dom}

/-- The root of a template whose content gives neither a class nor an id has the classes and the
id of its selector, and a search below it with the same selector comes to it first. -/
theorem build_selected (hdom : dom.Reachable) (config : BuildConfig) (text : String)
    {value : Content NodeId} (hwrites : ∀ write ∈ value.writes, write.1 ≠ "class" ∧ write.1 ≠ "id")
    {root : NodeId} (hok : ((element text value).build config dom).result = .ok root) :
    let after := ((element text value).build config dom).target
    (∃ found, after.element? root = some found ∧ found.classes = (Selector.parse text).classes ∧
      found.id = (Selector.parse text).id) ∧ (after.select root text).head? = some root := by
  intro after
  let selector := Selector.parseWith config.defaultTag text
  obtain ⟨rfl, hkeeps⟩ : root = ⟨dom.issued⟩ ∧
      (dom.insert (value.element selector)).2.KeepsElements after :=
    Build.element_keepsElements hdom.isForest text (Build.content_keepsElements value) [] root hok
  obtain ⟨hclasses, hid⟩ := Content.element_of_writes hwrites selector
  rw [Selector.element_classes fun _ => Selector.isName_of_mem_classes] at hclasses
  rw [Selector.element_id] at hid
  have hfound : after.element? ⟨dom.issued⟩ = some (value.element selector) := by
    rw [hkeeps.element? (by simp), Dom.element?_insert, if_pos rfl]
  obtain ⟨-, hc, hi⟩ := Selector.parseWith_agree Selector.defaultTag config.defaultTag text
  refine ⟨⟨_, hfound, hclasses.trans hc, hid.trans hi⟩, ?_⟩
  exact hkeeps.isForest.head?_select hfound
    (Selector.accepts_of_parseWith (value.element_tag selector) hclasses hid)

/-- A note that embeds one node in two places and sets a style. -/
def pinnedNote : Content NodeId :=
  .bag {
    properties := [.style "top: 0", .attr "title" (.text "class id")]
    children := [.node ⟨0⟩, .element ".a" (.node ⟨0⟩)] }

theorem build_pinnedNote :
    let dom := Dom.empty.applyAll [.insert { tag := "b", classes := ["a"] }]
    let run := (element "#x.a.-b#y.9.a" pinnedNote).build {} dom
    dom.Reachable ∧ (∀ write ∈ pinnedNote.writes, write.1 ≠ "class" ∧ write.1 ≠ "id") ∧
      run.result = .ok ⟨1⟩ ∧
      (∃ found, run.target.element? ⟨1⟩ = some found ∧ found.classes = ["a", "9", "a"] ∧
        found.id = some "y") ∧
      (run.target.select ⟨1⟩ "#x.a.-b#y.9.a").head? = some ⟨1⟩ := by
  intro dom run
  have hdom : dom.Reachable := ⟨_, rfl⟩
  have hwrites : ∀ write ∈ pinnedNote.writes, write.1 ≠ "class" ∧ write.1 ≠ "id" := by decide
  have hok : run.result = .ok ⟨1⟩ := by decide +kernel
  have hparse : Selector.parse "#x.a.-b#y.9.a" =
      { tag := "div", id := some "y", classes := ["a", "9", "a"] } := by decide +kernel
  obtain ⟨hfound, hselect⟩ := build_selected hdom {} "#x.a.-b#y.9.a" hwrites hok
  rw [hparse] at hfound
  exact ⟨hdom, hwrites, hok, hfound, hselect⟩

end Template

end TemplateTree
