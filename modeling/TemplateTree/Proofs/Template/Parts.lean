import TemplateTree.Proofs.Template.Occurrences

/-! # Parts of templates

The elements that a template asks for and the nodes that it embeds, in document order. A root
that exists already is no part, since a build leaves it where it is. -/

namespace TemplateTree

/-- An element to be made, with the number of elements that it lies in, or an embedded node. -/
inductive Part (ν : Type) where
  | element (depth : Nat) (data : Element)
  | held (node : ν)

variable {ν : Type}

namespace Part

def element? : Part ν → Option Element
  | element _ data => some data
  | held _ => none

/-- The elements among parts. -/
def elements (parts : List (Part ν)) : List Element :=
  parts.filterMap element?

/-- The part when its element lies in so many more elements. -/
def deeper (levels : Nat) : Part ν → Part ν
  | element depth data => .element (depth + levels) data
  | held node => .held node

@[simp] theorem elements_append (first second : List (Part ν)) :
    elements (first ++ second) = elements first ++ elements second :=
  List.filterMap_append

@[simp] theorem elements_element (depth : Nat) (data : Element) (parts : List (Part ν)) :
    elements (.element depth data :: parts) = data :: elements parts := rfl

@[simp] theorem elements_map_held (nodes : List ν) : elements (nodes.map .held) = [] := by
  simp [elements, element?, Function.comp_def]

end Part

/-- The node that a template stands for without being built. -/
def Template.held? : Template ν → Option ν
  | .element _ _ => none
  | .node handle => some handle

mutual

/-- The parts of a template at this depth. -/
def Template.parts (defaultTag : String) (depth : Nat) : Template ν → List (Part ν)
  | .element text content =>
    .element depth (content.element (Selector.parseWith defaultTag text)) ::
      content.parts defaultTag (depth + 1)
  | .node _ => []

/-- The parts of a content whose templates are at this depth. -/
def Content.parts (defaultTag : String) (depth : Nat) : Content ν → List (Part ν)
  | .text _ => []
  | .bag ⟨_, templates⟩ => Template.partsOf defaultTag depth templates
  | .items templates => Template.partsOf defaultTag depth templates
  | .node handle => [.held handle]

/-- The parts of templates below one element; there an existing node is a part as well. -/
def Template.partsOf (defaultTag : String) (depth : Nat) : List (Template ν) → List (Part ν)
  | [] => []
  | template :: rest =>
    template.parts defaultTag depth ++ template.held?.toList.map .held ++
      Template.partsOf defaultTag depth rest

end

/-! ## Elements among parts -/

mutual

/-- The elements among the parts are those of the template. -/
theorem Template.elements_parts (defaultTag : String) : ∀ (template : Template ν) (depth : Nat),
    Part.elements (template.parts defaultTag depth) =
      (template.occurrences depth).map (·.element defaultTag)
  | .element _ content, depth =>
      congrArg (List.cons _) (Content.elements_parts defaultTag content (depth + 1))
  | .node _, _ => rfl

theorem Content.elements_parts (defaultTag : String) : ∀ (content : Content ν) (depth : Nat),
    Part.elements (content.parts defaultTag depth) =
      (content.occurrences depth).map (·.element defaultTag)
  | .text _, _ => rfl
  | .bag ⟨_, templates⟩, depth => Template.elements_partsOf defaultTag templates depth
  | .items templates, depth => Template.elements_partsOf defaultTag templates depth
  | .node _, _ => rfl

theorem Template.elements_partsOf (defaultTag : String) :
    ∀ (templates : List (Template ν)) (depth : Nat),
    Part.elements (Template.partsOf defaultTag depth templates) =
      (Template.occurrencesOf depth templates).map (·.element defaultTag)
  | [], _ => rfl
  | template :: rest, depth => by
      rw [Template.partsOf, Part.elements_append, Part.elements_append, Part.elements_map_held,
        List.append_nil, Template.elements_parts defaultTag template,
        Template.elements_partsOf defaultTag rest, Template.occurrencesOf, List.map_append]

end

theorem Template.length_elements (defaultTag : String) (template : Template ν) (depth : Nat) :
    (Part.elements (template.parts defaultTag depth)).length = template.count := by
  rw [elements_parts, List.length_map, length_occurrences]

theorem Template.length_elementsOf (defaultTag : String) (templates : List (Template ν))
    (depth : Nat) : (Part.elements (partsOf defaultTag depth templates)).length =
      countOf templates := by
  rw [elements_partsOf, List.length_map, length_occurrencesOf]

/-! ## Embedded nodes -/

/-- The nodes that a template embeds below its root. -/
def Template.embedded : Template ν → List ν
  | .element _ content => content.handles
  | .node _ => []

theorem Template.embedded_subset (template : Template ν) :
    template.embedded ⊆ template.handles := by
  cases template with
  | element text content => exact List.Subset.refl _
  | node handle => exact List.nil_subset _

/-! ## Depth -/

-- The depth is only counted, so parts further down are the same ones under greater numbers.
mutual

theorem Template.parts_add (defaultTag : String) (levels : Nat) :
    ∀ (template : Template ν) (depth : Nat), template.parts defaultTag (depth + levels) =
      (template.parts defaultTag depth).map (Part.deeper levels)
  | .element _ content, depth => by
      rw [Template.parts, Template.parts, List.map_cons,
        ← Content.parts_add defaultTag levels content, Nat.add_right_comm]
      rfl
  | .node _, _ => rfl

theorem Content.parts_add (defaultTag : String) (levels : Nat) :
    ∀ (content : Content ν) (depth : Nat), content.parts defaultTag (depth + levels) =
      (content.parts defaultTag depth).map (Part.deeper levels)
  | .text _, _ => rfl
  | .bag ⟨_, templates⟩, depth => Template.partsOf_add defaultTag levels templates depth
  | .items templates, depth => Template.partsOf_add defaultTag levels templates depth
  | .node _, _ => rfl

theorem Template.partsOf_add (defaultTag : String) (levels : Nat) :
    ∀ (templates : List (Template ν)) (depth : Nat),
    Template.partsOf defaultTag (depth + levels) templates =
      (Template.partsOf defaultTag depth templates).map (Part.deeper levels)
  | [], _ => rfl
  | template :: rest, depth => by
      rw [Template.partsOf, Template.partsOf, List.map_append, List.map_append,
        Template.parts_add defaultTag levels template, Template.partsOf_add defaultTag levels rest,
        List.map_map]
      rfl

end

end TemplateTree
