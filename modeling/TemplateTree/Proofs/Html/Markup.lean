import TemplateTree.Dom.Target
import TemplateTree.Proofs.Template.Meaning

/-! # What HTML shows

HTML shows all of a tree but what void elements hide, and it does not tell a list of classes
from its text. It is legible when tags and names cannot be taken for anything else. -/

namespace TemplateTree

/-! ## What HTML shows -/

/-- What the start tag of an element shows. -/
structure Head where
  tag : String
  className? : Option String
  id : Option String
  attributes : List (String × String)

def Element.head (element : Element) : Head where
  tag := element.tag
  className? := element.attribute? "class"
  id := element.attribute? "id"
  attributes := element.attributes

/-- What HTML shows of a tree: start tags, and inside of them texts and children. -/
inductive Markup where
  | void (head : Head)
  | node (head : Head) (text : String) (children : List Markup)

namespace ElementTree

mutual

/-- Void elements hide their text and their children, and no text is like an empty one. -/
def markup : ElementTree → Markup
  | .node element children =>
    if isVoidTag element.tag then .void element.head
    else .node element.head (element.text.getD "") (markups children)

def markups : List ElementTree → List Markup
  | [] => []
  | tree :: rest => tree.markup :: markups rest

end

theorem markups_eq_map (trees : List ElementTree) : markups trees = trees.map markup := by
  induction trees with
  | nil => rfl
  | cons tree rest ih => rw [markups, ih, List.map_cons]

variable {element : Element} {children : List ElementTree}

theorem markup_of_void (h : isVoidTag element.tag) :
    (node element children).markup = .void element.head := by
  rw [markup, if_pos h]

theorem markup_of_not_void (h : isVoidTag element.tag = false) :
    (node element children).markup =
      .node element.head (element.text.getD "") (children.map markup) := by
  rw [markup, h, markups_eq_map]
  rfl

end ElementTree

/-! ## Legible trees -/

/-- An element with a proper tag whose attributes have been written one by one, under names
without an equals sign. Nothing is asked of its id, its classes, its text and its values. -/
structure Element.Legible (element : Element) : Prop where
  tag : isValidTagName element.tag
  written : ∃ (start : Element) (writes : List (String × String)), start.attributes = [] ∧
    element.attributes = (start.setAttributes writes).attributes
  names : ∀ entry ∈ element.attributes, '=' ∉ entry.1.toList

/-- A tree in which every element that is shown is legible. -/
inductive ElementTree.Legible : ElementTree → Prop where
  | node {element : Element} {children : List ElementTree} (legible : element.Legible)
      (shown : isVoidTag element.tag = false → ∀ child ∈ children, child.Legible) :
      ElementTree.Legible (.node element children)

theorem Keyed.forall_mem_put {β : Type} {p : String → Prop} {key : String} {value : β}
    {list : List (String × β)} (hk : p key) (h : ∀ entry ∈ list, p entry.1) :
    ∀ entry ∈ Keyed.put key value list, p entry.1 := by
  induction list with
  | nil => simpa [Keyed.put] using hk
  | cons entry rest ih =>
      rw [List.forall_mem_cons] at h
      rw [Keyed.put]
      split
      · exact List.forall_mem_cons.mpr ⟨h.1, h.2⟩
      · exact List.forall_mem_cons.mpr ⟨h.1, ih h.2⟩

namespace Element

/-- Neither the id nor the classes are among the other attributes. -/
def Separate (element : Element) : Prop :=
  ∀ entry ∈ element.attributes, entry.1 ≠ "id" ∧ entry.1 ≠ "class"

theorem Separate.setAttribute {element : Element} (h : element.Separate)
    (name value : String) : (element.setAttribute name value).Separate := by
  unfold Element.setAttribute
  split_ifs with hi hc
  · exact h
  · exact h
  · exact Keyed.forall_mem_put (p := fun name => name ≠ "id" ∧ name ≠ "class") ⟨hi, hc⟩ h

theorem Separate.setAttributes {element : Element} (h : element.Separate)
    (writes : List (String × String)) : (element.setAttributes writes).Separate := by
  induction writes generalizing element with
  | nil => exact h
  | cons write rest ih => exact ih (h.setAttribute write.1 write.2)

theorem Legible.separate {element : Element} (h : element.Legible) : element.Separate := by
  obtain ⟨start, writes, hs, hw⟩ := h.written
  have hstart : start.Separate := by simp [Separate, hs]
  intro entry he
  exact hstart.setAttributes writes entry (hw ▸ he)

end Element

end TemplateTree
