import TemplateTree.Dom.Basic
import TemplateTree.Selector.Segment

/-! Finding nodes by selector. -/

namespace TemplateTree

/-- The tag that every element has. -/
def anyTag : String := "*"

/-- Whether an element has the tag, the id and all the classes of a selector. -/
def Selector.accepts (selector : Selector) (element : Element) : Bool :=
  (selector.tag == anyTag || element.tag == selector.tag) &&
    (selector.id.isNone || element.id == selector.id) &&
    selector.classes.all element.hasClass

/-- The nodes below and including `root` that a selector accepts, in document order. A
selector without a tag accepts every tag, and dropped segments ask for nothing. -/
def Dom.select (dom : Dom) (root : NodeId) (selector : String) : List NodeId :=
  let selector := Selector.parseWith anyTag selector
  (dom.walk root).filter fun id => (dom.element? id).any selector.accepts

end TemplateTree
