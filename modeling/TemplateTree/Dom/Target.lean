import TemplateTree.Build.Target
import TemplateTree.Dom.Basic

/-! A forest of elements as the target of a build. -/

namespace TemplateTree

/-- Whether a tag is an ASCII letter followed by letters, digits and hyphens. -/
def isValidTagName (tag : String) : Bool :=
  match tag.toList with
  | [] => false
  | c :: cs => c.isAlpha && cs.all fun c => c.isAlphanum || c == '-'

namespace Dom

def createElement (dom : Dom) (tag : String) : Except DomFault (NodeId × Dom) :=
  if isValidTagName tag then .ok (dom.insert { tag }) else .error (.invalidTagName tag)

/-- Goes on with the changed forest, or fails and leaves it as it is. -/
def step (change : Dom → Except DomFault Dom) : Action Dom DomFault Unit := do
  match change (← get) with
  | .ok dom => set dom
  | .error fault => throw fault

instance : Target Dom NodeId DomFault where
  createElement tag := do
    match (← get).createElement tag with
    | .ok (id, dom) => do
      set dom
      return id
    | .error fault => throw fault
  setAttribute id name value := step (·.setAttribute id name value.display)
  setText id text := step (·.setText id text)
  appendChild parent child := step (·.appendChild parent child)

end Dom

end TemplateTree
