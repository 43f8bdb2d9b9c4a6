import Mathlib
import TemplateTree.Proofs.Build.Pieces
import TemplateTree.Proofs.Html.Unambiguous
import TemplateTree.Proofs.Template.Origin
import TemplateTree.Render

/-! # Opening brackets in HTML

Every tag that HTML shows opens with one bracket. Tags are checked and texts and values are
escaped, so that no bracket comes from them. The names of attributes are written as they are,
and their brackets are the only ones more. -/

namespace TemplateTree

namespace Html

/-! ## Brackets in pieces of HTML -/

theorem bracket_notMem_escape (inAttribute : Bool) (text : String) :
    '<' ∉ (escape inAttribute text).toList :=
  fun h => (ne_bracket_of_mem_escape h).1 rfl

theorem bracket_notMem_tag {tag : String} (h : isValidTagName tag) : '<' ∉ tag.toList := by
  unfold isValidTagName at h
  split at h
  · cases h
  · next c cs ht =>
      rw [Bool.and_eq_true, List.all_eq_true] at h
      rw [ht, List.mem_cons]
      rintro (rfl | hm)
      · exact absurd h.1 (by decide)
      · exact absurd (h.2 _ hm) (by decide)

/-- The brackets that attributes bring into a start tag. -/
def nameBrackets (element : Element) : Nat :=
  ((shownAttributes element).map fun entry => entry.1.toList.count '<').sum

theorem count_attributeText (name value : String) :
    (attributeText name value).toList.count '<' = name.toList.count '<' := by
  have hv : (escape true value).toList.count '<' = 0 :=
    List.count_eq_zero.mpr (bracket_notMem_escape true value)
  simp [toList_attributeText, hv]

theorem count_startTag {element : Element} (h : isValidTagName element.tag) :
    (startTag element).toList.count '<' = nameBrackets element + 1 := by
  have ht : element.tag.toList.count '<' = 0 := List.count_eq_zero.mpr (bracket_notMem_tag h)
  rw [toList_startTag, List.count_cons_self, List.count_append, List.count_append, ht,
    List.count_flatMap, nameBrackets]
  simp only [Function.comp_def, count_attributeText]
  simp

theorem count_endTag {element : Element} (h : isValidTagName element.tag) :
    (endTag element).toList.count '<' = 1 := by
  have ht : element.tag.toList.count '<' = 0 := List.count_eq_zero.mpr (bracket_notMem_tag h)
  rw [ElementTree.toList_endTag]
  simp [ht]

end Html

namespace ElementTree

open Html

/-! ## Elements that are shown -/

mutual

/-- The elements that lie in no void element, in document order. -/
def shown : ElementTree → List Element
  | .node element children =>
    element :: if isVoidTag element.tag then [] else shownOf children

def shownOf : List ElementTree → List Element
  | [] => []
  | tree :: rest => tree.shown ++ shownOf rest

end

/-- The brackets of an element: one for each of its tags, and those in its names. -/
def brackets (element : Element) : Nat :=
  (if isVoidTag element.tag then 1 else 2) + nameBrackets element

theorem count_htmls {trees : List ElementTree}
    (h : ∀ tree ∈ trees, tree.html.toList.count '<' = (tree.shown.map brackets).sum) :
    (trees.flatMap (·.html.toList)).count '<' = ((shownOf trees).map brackets).sum := by
  induction trees with
  | nil => rfl
  | cons tree rest ih =>
      rw [List.forall_mem_cons] at h
      rw [List.flatMap_cons, List.count_append, h.1, ih h.2, shownOf, List.map_append,
        List.sum_append]

theorem mem_shownOf {trees : List ElementTree} {tree : ElementTree} {element : Element}
    (ht : tree ∈ trees) (he : element ∈ tree.shown) : element ∈ shownOf trees := by
  induction trees with
  | nil => cases ht
  | cons first rest ih =>
      rw [shownOf, List.mem_append]
      rcases List.mem_cons.mp ht with rfl | ht
      · exact .inl he
      · exact .inr (ih ht)

/-- By induction on the tree: what a void element hides has no tags to count. -/
theorem count_html {tree : ElementTree} (h : ∀ element ∈ tree.shown, isValidTagName element.tag) :
    tree.html.toList.count '<' = (tree.shown.map brackets).sum := by
  induction tree using ElementTree.induction with
  | node element children ih =>
      obtain ⟨htag, hbelow⟩ := List.forall_mem_cons.mp h
      rw [toList_html_node, List.count_append, count_startTag htag, inside, shown, List.map_cons,
        List.sum_cons, brackets]
      cases hv : isVoidTag element.tag with
      | true => simp [Nat.add_comm]
      | false =>
          rw [hv] at hbelow
          have hchildren := count_htmls fun child hc => ih child hc fun element he =>
            hbelow element (mem_shownOf hc he)
          have htext : (ownText element).toList.count '<' = 0 :=
            List.count_eq_zero.mpr (bracket_notMem_escape false _)
          simp only [Bool.false_eq_true, if_false, List.count_append, htext, hchildren,
            count_endTag htag]
          omega

/-- The tags that HTML shows for elements. -/
def tagCount (elements : List Element) : Nat :=
  2 * elements.countP (fun element => !isVoidTag element.tag) +
    elements.countP fun element => isVoidTag element.tag

theorem sum_brackets (elements : List Element) :
    (elements.map brackets).sum = tagCount elements + (elements.map nameBrackets).sum := by
  induction elements with
  | nil => rfl
  | cons element rest ih =>
      rw [tagCount] at ih ⊢
      rw [List.map_cons, List.map_cons, List.sum_cons, List.sum_cons, ih, brackets,
        List.countP_cons, List.countP_cons]
      cases isVoidTag element.tag
      · simp only [Bool.not_false, if_true, Bool.false_eq_true, if_false]
        omega
      · simp only [Bool.not_true, if_true, Bool.false_eq_true, if_false]
        omega

theorem nameBrackets_eq_zero_iff {element : Element} :
    nameBrackets element = 0 ↔ ∀ entry ∈ element.attributes, '<' ∉ entry.1.toList := by
  rw [nameBrackets, List.sum_eq_zero_iff_forall_eq_nat, List.forall_mem_map, shownAttributes_eq]
  simp only [List.forall_mem_append, List.count_eq_zero]
  refine and_iff_right ⟨?_, ?_⟩
  · rintro entry he
    obtain ⟨value, -, rfl⟩ := Option.map_eq_some_iff.mp (Option.mem_toList.mp he)
    show '<' ∉ "class".toList
    decide
  · rintro entry he
    obtain ⟨value, -, rfl⟩ := Option.map_eq_some_iff.mp (Option.mem_toList.mp he)
    show '<' ∉ "id".toList
    decide

end ElementTree

/-! ## Rendered texts -/

namespace Template

variable {ν : Type} {config : BuildConfig} {held : NodeId → ElementTree}

-- By induction on the template; only an embedded node would bring elements of its own.
mutual

theorem exists_mem_parts : ∀ (template : Template NodeId) (depth : Nat),
    template.handles = [] → ∀ element ∈ (template.tree config held).shown,
      ∃ level, Part.element level element ∈ template.parts config.defaultTag depth
  | .element text content, depth, h => by
      intro element he
      rw [tree, ElementTree.shown, List.mem_cons] at he
      rw [parts]
      rcases he with rfl | he
      · exact ⟨depth, List.mem_cons_self⟩
      · split at he
        · cases he
        · obtain ⟨level, hm⟩ := Content.exists_mem_parts content (depth + 1) h element he
          exact ⟨level, List.mem_cons_of_mem _ hm⟩
  | .node _, _, h => by cases h

theorem Content.exists_mem_parts : ∀ (content : Content NodeId) (depth : Nat),
    content.handles = [] → ∀ element ∈ ElementTree.shownOf (content.trees config held),
      ∃ level, Part.element level element ∈ content.parts config.defaultTag depth
  | .text _, _, _ => nofun
  | .bag ⟨_, templates⟩, depth, h => exists_mem_partsOf templates depth h
  | .items templates, depth, h => exists_mem_partsOf templates depth h
  | .node _, _, h => by cases h

theorem exists_mem_partsOf : ∀ (templates : List (Template NodeId)) (depth : Nat),
    handlesOf templates = [] → ∀ element ∈ ElementTree.shownOf (treesOf config held templates),
      ∃ level, Part.element level element ∈ partsOf config.defaultTag depth templates
  | [], _, _ => nofun
  | template :: rest, depth, h => by
      obtain ⟨hfirst, hrest⟩ := List.append_eq_nil_iff.mp h
      intro element he
      rw [treesOf, ElementTree.shownOf, List.mem_append] at he
      rw [partsOf, List.append_assoc]
      rcases he with he | he
      · obtain ⟨level, hm⟩ := exists_mem_parts template depth hfirst element he
        exact ⟨level, List.mem_append_left _ hm⟩
      · obtain ⟨level, hm⟩ := exists_mem_partsOf rest depth hrest element he
        exact ⟨level, List.mem_append_right _ (List.mem_append_right _ hm)⟩

end

/-- What a build has made has proper tags. -/
theorem isValidTagName_of_build {dom : Dom} (hf : dom.IsForest) (config : BuildConfig)
    {template : Template NodeId} (ht : template.handles = []) {root : NodeId}
    (hok : (template.build config dom).result = .ok root) (held : NodeId → ElementTree) :
    ∀ element ∈ (template.tree config held).shown, isValidTagName element.tag := by
  have hparts := (exists_build_eq_ok hf config (by simp [ht])).mp ⟨root, hok⟩
  intro element he
  obtain ⟨level, hm⟩ := exists_mem_parts template 0 ht element he
  have hnone := hparts _ hm
  rw [Part.fault?] at hnone
  split_ifs at hnone with _ hvalid
  exact hvalid

end Template

/-- A text that renders holds a template, and HTML shows the tree of it. -/
theorem exists_of_renderText {text html : String} (h : renderText text = .ok html)
    (held : NodeId → ElementTree) : ∃ template : Template NodeId,
      Template.parse text = .ok template ∧ html = (template.tree {} held).html ∧
        ∀ element ∈ (template.tree {} held).shown, isValidTagName element.tag := by
  unfold renderText buildText at h
  cases hp : Json.parse text with
  | error error =>
      rw [hp] at h
      cases h
  | ok value =>
      simp only [hp, buildJson] at h
      cases ht : (Template.ofJson value : Except TemplateFault (Template NodeId)) with
      | error fault =>
          rw [ht] at h
          cases h
      | ok template =>
          simp only [ht, BuildOutcome.html] at h
          have hhandles := Template.handles_of_ofJson ht
          cases hr : (template.build {} Dom.empty).result with
          | error fault =>
              rw [hr] at h
              cases h
          | ok root =>
              rw [hr] at h
              have hmade := Template.build_made .empty {} hhandles held hr
              refine ⟨template, ?_,
                (Except.ok.inj h).symm.trans (Dom.html_of_tree? hmade.tree?),
                Template.isValidTagName_of_build .empty {} hhandles hr held⟩
              rw [Template.parse, hp]
              exact ht

/-- The brackets of rendered HTML are those of its tags, two for an element and one for a void
one, and those in names of attributes. The tags are all there is exactly when no shown element
has an attribute with a bracket in its name. -/
theorem renderText_brackets {text html : String} (h : renderText text = .ok html)
    (held : NodeId → ElementTree) : ∃ template : Template NodeId,
      Template.parse text = .ok template ∧
        let shown := (template.tree {} held).shown
        html.toList.count '<' =
            ElementTree.tagCount shown + (shown.map Html.nameBrackets).sum ∧
          (html.toList.count '<' = ElementTree.tagCount shown ↔
            ∀ element ∈ shown, ∀ entry ∈ element.attributes, '<' ∉ entry.1.toList) := by
  obtain ⟨template, hparse, rfl, hvalid⟩ := exists_of_renderText h held
  have hcount := ElementTree.count_html hvalid
  rw [ElementTree.sum_brackets] at hcount
  refine ⟨template, hparse, hcount, ?_⟩
  rw [hcount, Nat.add_eq_left, List.sum_eq_zero_iff_forall_eq_nat, List.forall_mem_map]
  simp only [ElementTree.nameBrackets_eq_zero_iff]

/-- A paragraph with brackets in its title and its text, and what a line break hides. -/
def bracketed : Template NodeId :=
  .element "p" (.bag ⟨[.attr "title" (.text "<"), .html "1 < 2"],
    [.element "br.x" (.bag ⟨[], [.element "i" (.bag {})]⟩)]⟩)

set_option maxRecDepth 4000 in
theorem renderText_bracketed :
    let text := "\x7b\"p\":\x7b\"title\":\"<\",\"html\":\"1 < 2\"," ++
      "\"br.x\":\x7b\"i\":\x7b\x7d\x7d\x7d\x7d"
    let html := "<p title=\"&lt;\">1 &lt; 2<br class=\"x\"></p>"
    let shown := (bracketed.tree {} fun _ => .node { tag := "" } []).shown
    renderText text = .ok html ∧ Template.parse text = .ok bracketed ∧
      html.toList.count '<' = ElementTree.tagCount shown ∧ ElementTree.tagCount shown = 3 := by
  intro text html shown
  have hrender : renderText text = .ok html := by decide +kernel
  have hparse : Template.parse text = .ok bracketed := by cbv
  obtain ⟨template, ht, -, hiff⟩ := renderText_brackets hrender fun _ => .node { tag := "" } []
  cases ht.symm.trans hparse
  exact ⟨hrender, hparse, hiff.mpr (by decide +kernel), by decide +kernel⟩

set_option maxRecDepth 4000 in
/-- The name of an attribute is written as it is, so that one element shows three brackets. -/
theorem renderText_of_named_bracket :
    let text := "\x7b\"p\":\x7b\"a<b\":\"1\"\x7d\x7d"
    let template : Template NodeId := .element "p" (.bag ⟨[.attr "a<b" (.text "1")], []⟩)
    let html := "<p a<b=\"1\"></p>"
    let shown := (template.tree {} fun _ => .node { tag := "" } []).shown
    renderText text = .ok html ∧ Template.parse text = .ok template ∧
      html.toList.count '<' = 3 ∧ ElementTree.tagCount shown = 2 := by
  intro text template html shown
  exact ⟨by decide +kernel, by cbv, by decide +kernel, by decide +kernel⟩

end TemplateTree
