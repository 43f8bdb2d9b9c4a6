import TemplateTree.Keyed
import TemplateTree.Text.Blank

/-! The data of one element. Its id and its classes are kept apart from the other attributes,
which stay in the order in which they were first set. -/

namespace TemplateTree

structure Element where
  tag : String
  id : Option String := none
  classes : List String := []
  attributes : List (String × String) := []
  text : Option String := none
deriving DecidableEq, Repr

namespace Element

def className (element : Element) : String :=
  " ".intercalate element.classes

def hasClass (element : Element) (name : String) : Bool :=
  element.classes.contains name

def withId (element : Element) (id : String) : Element :=
  { element with id := some id }

/-- Adds a class that the element does not have yet. -/
def withClass (element : Element) (name : String) : Element :=
  if element.hasClass name then element
  else { element with classes := element.classes ++ [name] }

def withText (element : Element) (text : String) : Element :=
  { element with text := some text }

/-- Sets an attribute. The value of `class` is a list of words. -/
def setAttribute (element : Element) (name value : String) : Element :=
  if name = "id" then element.withId value
  else if name = "class" then { element with classes := Text.words value }
  else { element with attributes := Keyed.put name value element.attributes }

/-- Reads an attribute; an element without classes has no `class`. -/
def attribute? (element : Element) (name : String) : Option String :=
  if name = "id" then element.id
  else if name = "class" then
    if element.classes.isEmpty then none else some element.className
  else element.attributes.lookup name

end Element

end TemplateTree
