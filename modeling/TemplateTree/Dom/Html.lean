import TemplateTree.Dom.Basic

/-! HTML text of nodes. The class comes first, then the id, then the other attributes; text
precedes children; a void element is its start tag alone. -/

namespace TemplateTree

def voidTags : List String :=
  ["area", "base", "br", "col", "embed", "hr", "img", "input", "link", "meta", "source",
    "track", "wbr"]

/-- Case does not matter here. -/
def isVoidTag (tag : String) : Bool :=
  voidTags.contains (String.ofList (tag.toList.map Char.toLower))

namespace Html

def escapeChar (inAttribute : Bool) (c : Char) : List Char :=
  if c = '&' then "&amp;".toList
  else if c = '<' then "&lt;".toList
  else if c = '>' then "&gt;".toList
  else if c = '"' ∧ inAttribute then "&quot;".toList
  else [c]

def escape (inAttribute : Bool) (text : String) : String :=
  String.ofList (text.toList.flatMap (escapeChar inAttribute))

def attributeText (name value : String) : String :=
  " " ++ name ++ "=\"" ++ escape true value ++ "\""

/-- The attributes that an element shows, in order. -/
def shownAttributes (element : Element) : List (String × String) :=
  (if element.classes.isEmpty then [] else [("class", element.className)]) ++
    (element.id.map fun id => ("id", id)).toList ++ element.attributes

def startTag (element : Element) : String :=
  "<" ++ element.tag ++
    String.join ((shownAttributes element).map fun (name, value) => attributeText name value) ++ ">"

def endTag (element : Element) : String :=
  "</" ++ element.tag ++ ">"

/-- The text of an element; an element without text shows none. -/
def ownText (element : Element) : String :=
  escape false (element.text.getD "")

/-- The HTML of an element around the HTML of its children. -/
def outer (element : Element) (inner : List String) : String :=
  if isVoidTag element.tag then startTag element
  else startTag element ++ ownText element ++ String.join inner ++ endTag element

end Html

namespace Dom

open Html

/-- The HTML of a node and all below it. -/
def html (dom : Dom) (id : NodeId) : String :=
  dom.fold (fun id inner =>
    match dom.element? id with
    | none => ""
    | some element => outer element inner) id

/-- The HTML inside a node. -/
def innerHtml (dom : Dom) (id : NodeId) : String :=
  match dom.element? id with
  | none => ""
  | some element => ownText element ++ String.join ((dom.children id).map dom.html)

/-- The texts of a node and of all below it, in document order. -/
def textContent (dom : Dom) (id : NodeId) : String :=
  String.join ((dom.walk id).filterMap fun node => (dom.element? node).bind (·.text))

end Dom

end TemplateTree
