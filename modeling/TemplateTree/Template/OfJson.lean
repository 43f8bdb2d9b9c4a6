import TemplateTree.Json.Printer
import TemplateTree.Json.Reader
import TemplateTree.Selector.Token
import TemplateTree.Template.Basic
import TemplateTree.Template.Fault

/-! Templates written as JSON: an object whose only key is a selector and whose value is the
content. In a bag the keys `children`, `html` and `style` are reserved; of the other
entries containers and selector-shaped keys are children, and the rest are attributes. -/

namespace TemplateTree

def childrenKey : String := "children"

def htmlKey : String := "html"

def styleKey : String := "style"

inductive EntryKind where
  | children
  | html
  | style
  | child
  | attr
deriving DecidableEq, Repr

/-- What an entry of a bag stands for; `nested` tells whether its value is a container. -/
def EntryKind.ofKey (key : String) (nested : Bool) : EntryKind :=
  if key = childrenKey then children
  else if key = htmlKey then html
  else if key = styleKey then style
  else if nested || Selector.hasMarker key then child
  else attr

def EntryKind.of (key : String) (value : Json) : EntryKind :=
  ofKey key value.isContainer

/-- Strings stand for themselves, null for nothing, and other values for their JSON text. -/
def Json.scalarText : Json → String
  | .string text => text
  | .null => ""
  | value => value.print

def AttrValue.ofJson : Json → AttrValue
  | .string value => .text value
  | .number value => .number value
  | .bool value => .bool value
  | .null => .null
  | value => .text value.print

variable {ν : Type}

mutual

def Template.ofJson : Json → Except TemplateFault (Template ν)
  | .object [] => .error .emptyTemplate
  | .object [(selector, value)] => do return .element selector (← Content.ofJson selector value)
  | .object members => .error (.multipleKeys (members.map Prod.fst))
  | value => .error (.notAnObject value.kind)

/-- The content under `selector`, which a fault names. -/
def Content.ofJson (selector : String) : Json → Except TemplateFault (Content ν)
  | .object members => do return .bag (← Content.bagOfJson selector {} members)
  | .array items => do return .items (← Template.listOfJson items)
  | value => return .text value.scalarText

/-- Adds entries to a bag, in order. -/
def Content.bagOfJson (selector : String) (bag : Bag (Template ν)) :
    List (String × Json) → Except TemplateFault (Bag (Template ν))
  | [] => return bag
  | (key, value) :: rest => do
    let bag ← match EntryKind.of key value with
      | .children =>
        match value with
        | .array items => do pure (bag.addChildren (← Template.listOfJson items))
        | other => .error (.childrenNotAList selector other.kind)
      | .html => pure (bag.html value.scalarText)
      | .style => pure (bag.style value.scalarText)
      | .child => do pure (bag.addChild (.element key (← Content.ofJson key value)))
      | .attr => pure (bag.attr key (AttrValue.ofJson value))
    Content.bagOfJson selector bag rest

def Template.listOfJson : List Json → Except TemplateFault (List (Template ν))
  | [] => return []
  | item :: rest => do
    let template ← Template.ofJson item
    let templates ← Template.listOfJson rest
    return template :: templates

end

/-- Reads a whole text and then the template in it. -/
def Template.parse (text : String) : Except TemplateFault (Template ν) :=
  match Json.parse text with
  | .ok value => Template.ofJson value
  | .error error => .error (.json error)

end TemplateTree
