import TemplateTree.Proofs.Template.Meaning

/-! # Elements in document order

The elements of a template, each with the number of elements that it lies in. What else names
them in this order can be read off this list. -/

namespace TemplateTree

variable {ν : Type}

/-- An element of a template, with the number of elements that it lies in. -/
structure Occurrence (ν : Type) where
  depth : Nat
  selector : String
  content : Content ν

/-- The element that is made for it. -/
def Occurrence.element (defaultTag : String) (occurrence : Occurrence ν) : Element :=
  occurrence.content.element (Selector.parseWith defaultTag occurrence.selector)

mutual

/-- The elements of a template at this depth, in document order. -/
def Template.occurrences (depth : Nat) : Template ν → List (Occurrence ν)
  | .element selector content => ⟨depth, selector, content⟩ :: content.occurrences (depth + 1)
  | .node _ => []

def Content.occurrences (depth : Nat) : Content ν → List (Occurrence ν)
  | .text _ => []
  | .bag ⟨_, templates⟩ => Template.occurrencesOf depth templates
  | .items templates => Template.occurrencesOf depth templates
  | .node _ => []

def Template.occurrencesOf (depth : Nat) : List (Template ν) → List (Occurrence ν)
  | [] => []
  | template :: rest =>
    template.occurrences depth ++ Template.occurrencesOf depth rest

end

theorem Template.occurrencesOf_append (depth : Nat) (first second : List (Template ν)) :
    occurrencesOf depth (first ++ second) =
      occurrencesOf depth first ++ occurrencesOf depth second := by
  induction first with
  | nil => rfl
  | cons item rest ih =>
      rw [List.cons_append, occurrencesOf, occurrencesOf, ih, List.append_assoc]

/-! ## Numbers of elements -/

mutual

/-- How many elements a template asks for. -/
def Template.count : Template ν → Nat
  | .element _ content => content.count + 1
  | .node _ => 0

def Content.count : Content ν → Nat
  | .text _ => 0
  | .bag ⟨_, templates⟩ => Template.countOf templates
  | .items templates => Template.countOf templates
  | .node _ => 0

def Template.countOf : List (Template ν) → Nat
  | [] => 0
  | template :: rest => template.count + Template.countOf rest

end

mutual

theorem Template.length_occurrences : ∀ (template : Template ν) (depth : Nat),
    (template.occurrences depth).length = template.count
  | .element _ content, depth => by
      rw [Template.occurrences, List.length_cons, Content.length_occurrences content,
        Template.count]
  | .node _, _ => rfl

theorem Content.length_occurrences : ∀ (content : Content ν) (depth : Nat),
    (content.occurrences depth).length = content.count
  | .text _, _ => rfl
  | .bag ⟨_, templates⟩, depth => Template.length_occurrencesOf templates depth
  | .items templates, depth => Template.length_occurrencesOf templates depth
  | .node _, _ => rfl

theorem Template.length_occurrencesOf : ∀ (templates : List (Template ν)) (depth : Nat),
    (Template.occurrencesOf depth templates).length = Template.countOf templates
  | [], _ => rfl
  | template :: rest, depth => by
      rw [Template.occurrencesOf, List.length_append, Template.length_occurrences template,
        Template.length_occurrencesOf rest, Template.countOf]

end

end TemplateTree
