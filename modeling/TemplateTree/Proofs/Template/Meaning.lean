import TemplateTree.Build.Builder
import TemplateTree.Proofs.Dom.ElementTree

/-! # What templates stand for

The tree of elements that a template describes, by recursion on the template alone. -/

namespace TemplateTree

variable {ν : Type}

/-! ## Embedded nodes -/

mutual

/-- The existing nodes in a template, in document order. -/
def Template.handles : Template ν → List ν
  | .element _ content => content.handles
  | .node handle => [handle]

def Content.handles : Content ν → List ν
  | .text _ => []
  | .bag ⟨_, templates⟩ => Template.handlesOf templates
  | .items templates => Template.handlesOf templates
  | .node handle => [handle]

def Template.handlesOf : List (Template ν) → List ν
  | [] => []
  | template :: rest => template.handles ++ Template.handlesOf rest

end

/-! ## Elements -/

/-- Writes attributes one after the other. -/
def Element.setAttributes (element : Element) (writes : List (String × String)) : Element :=
  writes.foldl (fun element write => element.setAttribute write.1 write.2) element

/-- The attributes that a selector gives, the class before the id. -/
def Selector.writes (selector : Selector) : List (String × String) :=
  (selector.className?.map fun name => ("class", name)).toList ++
    (selector.id.map fun id => ("id", id)).toList

/-- The element that a selector starts. -/
def Selector.element (selector : Selector) : Element :=
  ({ tag := selector.tag } : Element).setAttributes selector.writes

namespace Property

def write? : Property → Option (String × String)
  | attr name value => some (name, value.display)
  | html _ => none
  | style css => some ("style", css)

def text? : Property → Option String
  | html text => some text
  | _ => none

/-- The element after a property has been applied to it. -/
def applyTo (element : Element) : Property → Element
  | attr name value => element.setAttribute name value.display
  | html text => element.withText text
  | style css => element.setAttribute "style" css

end Property

namespace Content

def writes : Content ν → List (String × String)
  | .bag ⟨properties, _⟩ => properties.filterMap Property.write?
  | _ => []

/-- The text of a content; in a bag the last `html` counts. -/
def text? : Content ν → Option String
  | .text value => some value
  | .bag ⟨properties, _⟩ => (properties.filterMap Property.text?).getLast?
  | _ => none

/-- The element with a selector and a content. -/
def element (selector : Selector) (content : Content ν) : Element :=
  { ({ tag := selector.tag } : Element).setAttributes (selector.writes ++ content.writes) with
    text := content.text? }

/-- An element after a content has been applied to it. -/
def applyTo (element : Element) (content : Content ν) : Element :=
  { element.setAttributes content.writes with text := content.text?.or element.text }

end Content

/-! ## Trees -/

mutual

/-- The tree of a template, given the trees of the nodes that it embeds. -/
def Template.tree (config : BuildConfig) (held : ν → ElementTree) : Template ν → ElementTree
  | .element selector content =>
    .node (content.element (Selector.parseWith config.defaultTag selector))
      (content.trees config held)
  | .node handle => held handle

/-- The trees below an element with this content. -/
def Content.trees (config : BuildConfig) (held : ν → ElementTree) :
    Content ν → List ElementTree
  | .text _ => []
  | .bag ⟨_, templates⟩ => Template.treesOf config held templates
  | .items templates => Template.treesOf config held templates
  | .node handle => [held handle]

def Template.treesOf (config : BuildConfig) (held : ν → ElementTree) :
    List (Template ν) → List ElementTree
  | [] => []
  | template :: rest => template.tree config held :: Template.treesOf config held rest

end

/-! ## Writing attributes and text -/

namespace Element

@[simp] theorem setAttribute_text (element : Element) (name value : String) :
    (element.setAttribute name value).text = element.text := by
  unfold setAttribute
  split
  · rfl
  · split <;> rfl

@[simp] theorem setAttribute_tag (element : Element) (name value : String) :
    (element.setAttribute name value).tag = element.tag := by
  unfold setAttribute
  split
  · rfl
  · split <;> rfl

theorem setAttribute_withText (element : Element) (text name value : String) :
    (element.withText text).setAttribute name value =
      (element.setAttribute name value).withText text := by
  unfold setAttribute
  split
  · rfl
  · split <;> rfl

@[simp] theorem setAttributes_nil (element : Element) : element.setAttributes [] = element := rfl

@[simp] theorem setAttributes_cons (element : Element) (write : String × String)
    (writes : List (String × String)) :
    element.setAttributes (write :: writes) =
      (element.setAttribute write.1 write.2).setAttributes writes := rfl

theorem setAttributes_append (element : Element) (first second : List (String × String)) :
    element.setAttributes (first ++ second) =
      (element.setAttributes first).setAttributes second :=
  List.foldl_append

@[simp] theorem setAttributes_text (element : Element) (writes : List (String × String)) :
    (element.setAttributes writes).text = element.text := by
  induction writes generalizing element with
  | nil => rfl
  | cons write rest ih => rw [setAttributes_cons, ih, setAttribute_text]

@[simp] theorem setAttributes_tag (element : Element) (writes : List (String × String)) :
    (element.setAttributes writes).tag = element.tag := by
  induction writes generalizing element with
  | nil => rfl
  | cons write rest ih => rw [setAttributes_cons, ih, setAttribute_tag]

theorem setAttributes_withText (element : Element) (text : String)
    (writes : List (String × String)) :
    (element.withText text).setAttributes writes =
      (element.setAttributes writes).withText text := by
  induction writes generalizing element with
  | nil => rfl
  | cons write rest ih => rw [setAttributes_cons, setAttribute_withText, ih, setAttributes_cons]

/-- Applying properties in order writes their attributes and leaves the last text. -/
theorem foldl_applyTo (element : Element) (properties : List Property) :
    properties.foldl Property.applyTo element =
      { element.setAttributes (properties.filterMap Property.write?) with
        text := (properties.filterMap Property.text?).getLast?.or element.text } := by
  induction properties generalizing element with
  | nil => rfl
  | cons property rest ih =>
      rw [List.foldl_cons, ih]
      cases property with
      | attr name value => simp [Property.applyTo, Property.write?, Property.text?]
      | style css => simp [Property.applyTo, Property.write?, Property.text?]
      | html text =>
          simp only [Property.applyTo, Property.write?, Property.text?, List.filterMap_cons,
            setAttributes_withText, List.getLast?_cons]
          cases (rest.filterMap Property.text?).getLast? <;> rfl

end Element

theorem Content.element_tag (selector : Selector) (content : Content ν) :
    (content.element selector).tag = selector.tag :=
  Element.setAttributes_tag ..

theorem Content.applyTo_element (selector : Selector) (content : Content ν) :
    content.applyTo selector.element = content.element selector := by
  unfold applyTo element Selector.element
  rw [← Element.setAttributes_append, Element.setAttributes_text, Option.or_none]

end TemplateTree
