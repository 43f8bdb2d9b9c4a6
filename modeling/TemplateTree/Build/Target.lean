import TemplateTree.Template.Basic

/-! What a tree must offer to be built from templates. -/

namespace TemplateTree

/-- A step on a target of type `σ`. A step that fails may have changed the target. -/
abbrev Action (σ ε α : Type) := ExceptT ε (StateM σ) α

/-- Targets of type `σ` hold nodes of type `ν` and fail with `ε`. -/
class Target (σ : Type) (ν ε : outParam Type) where
  /-- Makes an element without a parent. -/
  createElement : String → Action σ ε ν
  setAttribute : ν → String → AttrValue → Action σ ε Unit
  /-- Replaces the content of a node by text. -/
  setText : ν → String → Action σ ε Unit
  /-- Makes the second node the last child of the first. -/
  appendChild : ν → ν → Action σ ε Unit

end TemplateTree
