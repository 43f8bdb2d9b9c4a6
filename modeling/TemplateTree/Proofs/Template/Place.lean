import TemplateTree.Proofs.Template.Parts

/-! # Places in templates

A template with a hole among the items of one of its elements. What a template asks for is made
up of what the place around an item asks for and of what the item does. -/

namespace TemplateTree

inductive Place (ν : Type) where
  | here
  | inBag (selector : String) (properties : List Property) (before : List (Template ν))
    (inner : Place ν) (after : List (Template ν))
  | inItems (selector : String) (before : List (Template ν)) (inner : Place ν)
    (after : List (Template ν))

variable {ν : Type}

/-! ## Items side by side -/

namespace Template

theorem handlesOf_append (first second : List (Template ν)) :
    handlesOf (first ++ second) = handlesOf first ++ handlesOf second := by
  induction first with
  | nil => rfl
  | cons item rest ih => rw [List.cons_append, handlesOf, handlesOf, ih, List.append_assoc]

theorem countOf_append (first second : List (Template ν)) :
    countOf (first ++ second) = countOf first + countOf second := by
  induction first with
  | nil => exact (Nat.zero_add _).symm
  | cons item rest ih => rw [List.cons_append, countOf, countOf, ih, Nat.add_assoc]

theorem treesOf_append (config : BuildConfig) (held : ν → ElementTree)
    (first second : List (Template ν)) :
    treesOf config held (first ++ second) =
      treesOf config held first ++ treesOf config held second := by
  induction first with
  | nil => rfl
  | cons item rest ih => rw [List.cons_append, treesOf, treesOf, ih, List.cons_append]

theorem partsOf_append (defaultTag : String) (depth : Nat) (first second : List (Template ν)) :
    partsOf defaultTag depth (first ++ second) =
      partsOf defaultTag depth first ++ partsOf defaultTag depth second := by
  induction first with
  | nil => rfl
  | cons item rest ih =>
      rw [List.cons_append, partsOf, partsOf, ih]
      exact (List.append_assoc ..).symm

theorem partsOf_around {defaultTag : String} {depth : Nat} {item : Template ν}
    {first parts last : List (Part ν)}
    (h : partsOf defaultTag depth [item] = first ++ parts ++ last)
    (before after : List (Template ν)) :
    partsOf defaultTag depth (before ++ item :: after) =
      partsOf defaultTag depth before ++ first ++ parts ++
        (last ++ partsOf defaultTag depth after) := by
  have hitem : item :: after = [item] ++ after := rfl
  rw [hitem, partsOf_append, partsOf_append, h]
  simp only [List.append_assoc]

theorem partsOf_element (defaultTag : String) (depth : Nat) (text : String)
    (content : Content ν) :
    partsOf defaultTag depth [.element text content] =
      .element depth (content.element (Selector.parseWith defaultTag text)) ::
        content.parts defaultTag (depth + 1) := by
  rw [partsOf, partsOf, parts, held?]
  simp

end Template

namespace Place

/-- The template with this item in its hole. -/
def fill (item : Template ν) : Place ν → Template ν
  | here => item
  | inBag selector properties before inner after =>
    .element selector (.bag ⟨properties, before ++ inner.fill item :: after⟩)
  | inItems selector before inner after =>
    .element selector (.items (before ++ inner.fill item :: after))

/-- How many elements the hole lies in. -/
def levels : Place ν → Nat
  | here => 0
  | inBag _ _ _ inner _ | inItems _ _ inner _ => inner.levels + 1

/-- How many elements there are around the hole and beside it. -/
def count : Place ν → Nat
  | here => 0
  | inBag _ _ before inner after | inItems _ before inner after =>
    Template.countOf before + inner.count + Template.countOf after + 1

variable {item other : Template ν}

/-- In a place without embedded nodes an item has all of them. -/
theorem handles_fill {place : Place ν} (h : (place.fill item).handles = [])
    (other : Template ν) : (place.fill other).handles = other.handles := by
  induction place with
  | here => rfl
  | inBag _ _ before inner after ih | inItems _ before inner after ih =>
      rw [fill, Template.handles, Content.handles, Template.handlesOf_append, Template.handlesOf,
        List.append_eq_nil_iff, List.append_eq_nil_iff] at h
      obtain ⟨hbefore, hinner, hafter⟩ := h
      rw [fill, Template.handles, Content.handles, Template.handlesOf_append, Template.handlesOf,
        hbefore, hafter, ih hinner, List.append_nil, List.nil_append]

theorem count_fill (place : Place ν) (item : Template ν) :
    (place.fill item).count = place.count + item.count := by
  induction place with
  | here => exact (Nat.zero_add _).symm
  | inBag _ _ before inner after ih | inItems _ before inner after ih =>
      rw [fill, Template.count, Content.count, Template.countOf_append, Template.countOf, ih, count]
      omega

/-- Items with the same tree can take the place of each other. -/
theorem tree_fill {config : BuildConfig} {held : ν → ElementTree}
    (h : item.tree config held = other.tree config held) (place : Place ν) :
    (place.fill item).tree config held = (place.fill other).tree config held := by
  induction place with
  | here => exact h
  | inBag _ _ before inner after ih | inItems _ before inner after ih =>
      simp only [fill, Template.tree, Content.trees, Template.treesOf_append, Template.treesOf, ih]
      rfl

/-- The parts of an item stand together among the parts of the whole. -/
theorem partsOf_fill (place : Place ν) (defaultTag : String) (depth : Nat) :
    ∃ before after, ∀ item : Template ν,
      Template.partsOf defaultTag depth [place.fill item] =
        before ++ Template.partsOf defaultTag (depth + place.levels) [item] ++ after := by
  induction place generalizing depth with
  | here => exact ⟨[], [], fun item => (List.append_nil _).symm⟩
  | inBag selector properties before inner after ih =>
      obtain ⟨first, last, hparts⟩ := ih (depth + 1)
      let head : Content ν := .bag ⟨properties, []⟩
      refine ⟨.element depth (head.element (Selector.parseWith defaultTag selector)) ::
        (Template.partsOf defaultTag (depth + 1) before ++ first),
        last ++ Template.partsOf defaultTag (depth + 1) after, fun item => ?_⟩
      rw [fill, Template.partsOf_element, Content.parts, Template.partsOf_around (hparts item),
        levels, Nat.add_right_comm, Nat.add_assoc]
      rfl
  | inItems selector before inner after ih =>
      obtain ⟨first, last, hparts⟩ := ih (depth + 1)
      let head : Content ν := .items []
      refine ⟨.element depth (head.element (Selector.parseWith defaultTag selector)) ::
        (Template.partsOf defaultTag (depth + 1) before ++ first),
        last ++ Template.partsOf defaultTag (depth + 1) after, fun item => ?_⟩
      rw [fill, Template.partsOf_element, Content.parts, Template.partsOf_around (hparts item),
        levels, Nat.add_right_comm, Nat.add_assoc]
      rfl

end Place

end TemplateTree
