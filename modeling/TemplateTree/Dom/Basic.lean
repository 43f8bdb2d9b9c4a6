import TemplateTree.Dom.Element
import TemplateTree.Dom.NodeMap

/-! A forest of elements. Nodes start without a parent, children are in document order, and
the id of a removed node is never given to another one. -/

namespace TemplateTree

/-- The element of every node, its children, and the parent of every attached node. -/
structure Dom where
  elements : NodeMap Element := {}
  childLists : NodeMap (List NodeId) := {}
  parents : NodeMap NodeId := {}
deriving DecidableEq, Repr

inductive DomFault where
  | invalidTagName (tag : String)
  | nodeNotFound
  | hierarchyRequest
deriving DecidableEq, Repr

def DomFault.message : DomFault → String
  | invalidTagName tag => "invalid tag name `" ++ tag ++ "`"
  | nodeNotFound => "node does not exist"
  | hierarchyRequest => "cannot append a node to itself or to one of its descendants"

namespace Dom

def empty : Dom := {}

/-! ### Reading -/

def element? (dom : Dom) (id : NodeId) : Option Element :=
  dom.elements.get? id

def contains (dom : Dom) (id : NodeId) : Bool :=
  (dom.element? id).isSome

def parent? (dom : Dom) (id : NodeId) : Option NodeId :=
  dom.parents.get? id

def children (dom : Dom) (id : NodeId) : List NodeId :=
  (dom.childLists.get? id).getD []

/-- The number of nodes, with or without a parent. -/
def size (dom : Dom) : Nat :=
  dom.elements.size

def isEmpty (dom : Dom) : Bool :=
  dom.size == 0

/-- How many ids have been given so far, to nodes that may be gone by now. -/
def issued (dom : Dom) : Nat :=
  dom.elements.next.index

/-- The ancestors of a node up to `count` of them, nearest first. -/
def ancestorsUpTo (dom : Dom) : Nat → NodeId → List NodeId
  | 0, _ => []
  | count + 1, id =>
    match dom.parent? id with
    | none => []
    | some parent => parent :: dom.ancestorsUpTo count parent

/-- The ancestors of a node, nearest first. There are fewer of them than ids. -/
def ancestors (dom : Dom) (id : NodeId) : List NodeId :=
  dom.ancestorsUpTo dom.issued id

/-- The node reached by child indices from `id`. -/
def descendant? (dom : Dom) (id : NodeId) (path : List Nat) : Option NodeId :=
  path.foldlM (fun node index => (dom.children node)[index]?) id

/-- Visits pending nodes, each followed by its children, in at most `count` visits. -/
def walkUpTo (dom : Dom) : Nat → List NodeId → List NodeId
  | 0, _ | _, [] => []
  | count + 1, id :: pending =>
    if dom.contains id then id :: dom.walkUpTo count (dom.children id ++ pending)
    else dom.walkUpTo count pending

/-- The nodes below and including `start`, in document order. Every visit but the first
takes a node of its own, so the ids bound their number. -/
def walk (dom : Dom) (start : NodeId) : List NodeId :=
  dom.walkUpTo (dom.issued + 1) [start]

/-- Combines a node with the results for its children, through at most `depth` levels
below it. -/
def foldUpTo {β : Type} (dom : Dom) (combine : NodeId → List β → β) : Nat → NodeId → β
  | 0, id => combine id []
  | depth + 1, id => combine id ((dom.children id).map (dom.foldUpTo combine depth))

/-- Combines every node with the results for its children, from the leaves up. There are at
most as many levels as ids. -/
def fold {β : Type} (dom : Dom) (combine : NodeId → List β → β) (id : NodeId) : β :=
  dom.foldUpTo combine dom.issued id

/-! ### Changing -/

def modifyElement (dom : Dom) (id : NodeId) (change : Element → Element) : Dom :=
  { dom with elements := dom.elements.modify id change }

def erase (dom : Dom) (id : NodeId) : Dom :=
  ⟨dom.elements.erase id, dom.childLists.erase id, dom.parents.erase id⟩

def insert (dom : Dom) (element : Element) : NodeId × Dom :=
  let id := dom.elements.next
  (id, { dom with
    elements := dom.elements.put id element
    childLists := dom.childLists.put id [] })

/-- Takes a node off its parent; the nodes below it stay with it. -/
def detach (dom : Dom) (id : NodeId) : Dom :=
  match dom.parent? id with
  | none => dom
  | some parent =>
    { dom with
      parents := dom.parents.erase id
      childLists := dom.childLists.modify parent (·.filter (· != id)) }

/-- Removes a node and all nodes below it. -/
def remove (dom : Dom) (id : NodeId) : Option Element × Dom :=
  match dom.element? id with
  | none => (none, dom)
  | some element =>
    let detached := dom.detach id
    (some element, (detached.walk id).foldl erase detached)

/-- Puts a node without a parent behind the children of another node. -/
def attach (dom : Dom) (parent child : NodeId) : Dom :=
  { dom with
    parents := dom.parents.put child parent
    childLists := dom.childLists.modify parent (· ++ [child]) }

/-- Makes `child` the last child of `parent`, wherever it was before. -/
def appendChild (dom : Dom) (parent child : NodeId) : Except DomFault Dom :=
  if !dom.contains parent || !dom.contains child then .error .nodeNotFound
  else if parent = child ∨ child ∈ dom.ancestors parent then .error .hierarchyRequest
  else .ok ((dom.detach child).attach parent child)

/-- Gives a node text in place of its children, which are removed. -/
def setText (dom : Dom) (id : NodeId) (text : String) : Except DomFault Dom :=
  if dom.contains id then
    .ok ((dom.children id).foldl (fun dom child => (dom.remove child).2)
      (dom.modifyElement id (·.withText text)))
  else .error .nodeNotFound

def setAttribute (dom : Dom) (id : NodeId) (name value : String) : Except DomFault Dom :=
  if dom.contains id then .ok (dom.modifyElement id (·.setAttribute name value))
  else .error .nodeNotFound

end Dom

end TemplateTree
