/-! Element selectors: a tag, an optional id and an ordered list of classes. -/

namespace TemplateTree

structure Selector where
  tag : String
  id : Option String := none
  classes : List String := []
deriving DecidableEq, Repr

namespace Selector

/-- The tag of an element whose selector names none. -/
def defaultTag : String := "div"

instance : Inhabited Selector := ⟨{ tag := defaultTag }⟩

def withId (selector : Selector) (id : String) : Selector :=
  { selector with id := some id }

def withClass (selector : Selector) (name : String) : Selector :=
  { selector with classes := selector.classes ++ [name] }

/-- The classes as one attribute value; a selector without classes has none. -/
def className? (selector : Selector) : Option String :=
  if selector.classes.isEmpty then none else some (" ".intercalate selector.classes)

/-- The canonical text: tag, then every class, then the id. -/
def display (selector : Selector) : String :=
  selector.tag ++ String.join (selector.classes.map ("." ++ ·)) ++
    (selector.id.map ("#" ++ ·)).getD ""

end Selector

end TemplateTree
