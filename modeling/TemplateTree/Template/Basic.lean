import TemplateTree.Number.Basic

/-! Templates. A template is an element still to be built or a node that exists already;
`ν` is the type of nodes. An element has a selector and a content, and a content is text,
a bag of properties and children, a list of templates, or an existing node. -/

namespace TemplateTree

inductive AttrValue where
  | text (value : String)
  | number (value : Number)
  | bool (value : Bool)
  | null
deriving DecidableEq, Repr

namespace AttrValue

/-- The conventional text of a value. -/
def display : AttrValue → String
  | text value => value
  | number value => value.display
  | bool true => "true"
  | bool false => "false"
  | null => "null"

def text? : AttrValue → Option String
  | text value => some value
  | _ => none

/-- A float that is not finite has no number and is no value. -/
def ofFloatBits (bits : Nat) : AttrValue :=
  match Double.ofBits? bits with
  | some x => number (.float x)
  | none => null

def same : AttrValue → AttrValue → Bool
  | number a, number b => a.same b
  | a, b => a == b

end AttrValue

/-- An entry of a bag that is not a child. -/
inductive Property where
  | attr (name : String) (value : AttrValue)
  | html (text : String)
  | style (css : String)
deriving DecidableEq, Repr

def Property.same : Property → Property → Bool
  | .attr n a, .attr m b => n == m && a.same b
  | p, q => p == q

/-- Properties are applied in order, and then the children are appended in order. -/
structure Bag (τ : Type) where
  properties : List Property := []
  children : List τ := []

namespace Bag

variable {τ : Type}

def empty : Bag τ := {}

def isEmpty (bag : Bag τ) : Bool :=
  bag.properties.isEmpty && bag.children.isEmpty

def property (bag : Bag τ) (p : Property) : Bag τ :=
  { bag with properties := bag.properties ++ [p] }

def attr (bag : Bag τ) (name : String) (value : AttrValue) : Bag τ :=
  bag.property (.attr name value)

def html (bag : Bag τ) (text : String) : Bag τ :=
  bag.property (.html text)

def style (bag : Bag τ) (css : String) : Bag τ :=
  bag.property (.style css)

def addChildren (bag : Bag τ) (templates : List τ) : Bag τ :=
  { bag with children := bag.children ++ templates }

def addChild (bag : Bag τ) (template : τ) : Bag τ :=
  bag.addChildren [template]

end Bag

mutual

inductive Template (ν : Type) where
  | element (selector : String) (content : Content ν)
  | node (handle : ν)

inductive Content (ν : Type) where
  | text (text : String)
  | bag (bag : Bag (Template ν))
  | items (templates : List (Template ν))
  | node (handle : ν)

end

variable {ν : Type}

/-- A nested template stands for a bag with one child. -/
def Content.ofTemplate (template : Template ν) : Content ν :=
  .bag (Bag.empty.addChild template)

inductive ContentKind where
  | text
  | attributes
  | list
  | node
deriving DecidableEq, Repr

def ContentKind.name : ContentKind → String
  | text => "text"
  | attributes => "attributes"
  | list => "list"
  | node => "node"

def Content.kind : Content ν → ContentKind
  | text _ => .text
  | bag _ => .attributes
  | items _ => .list
  | node _ => .node

mutual

def Template.same [BEq ν] : Template ν → Template ν → Bool
  | .element s a, .element t b => s == t && a.same b
  | .node a, .node b => a == b
  | _, _ => false

def Content.same [BEq ν] : Content ν → Content ν → Bool
  | .text a, .text b => a == b
  | .bag ⟨ps, as⟩, .bag ⟨qs, bs⟩ => ps.isEqv qs Property.same && Template.sameAll as bs
  | .items as, .items bs => Template.sameAll as bs
  | .node a, .node b => a == b
  | _, _ => false

def Template.sameAll [BEq ν] : List (Template ν) → List (Template ν) → Bool
  | [], [] => true
  | a :: as, b :: bs => a.same b && Template.sameAll as bs
  | _, _ => false

end

end TemplateTree
