/-! Ordered key-value lists. A key keeps the place where it was first put. -/

namespace TemplateTree.Keyed

/-- Gives `key` the value in its place, or at the end when the key is new. -/
def put {β : Type} (key : String) (value : β) : List (String × β) → List (String × β)
  | [] => [(key, value)]
  | (k, v) :: rest => if k = key then (k, value) :: rest else (k, v) :: put key value rest

end TemplateTree.Keyed
