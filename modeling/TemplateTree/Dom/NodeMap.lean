/-! Values kept by node. An id is never given twice, and a removed value leaves its place
empty. -/

namespace TemplateTree

structure NodeId where
  index : Nat
deriving DecidableEq, Repr

/-- The values by the index of their node. -/
structure NodeMap (α : Type) where
  slots : Array (Option α) := #[]
deriving DecidableEq, Repr

namespace NodeMap

variable {α : Type}

def get? (map : NodeMap α) (id : NodeId) : Option α :=
  map.slots[id.index]?.join

/-- The id behind all places that have been used. -/
def next (map : NodeMap α) : NodeId :=
  ⟨map.slots.size⟩

/-- Gives a node a value; places that are missing before it stay empty. -/
def put (map : NodeMap α) (id : NodeId) (value : α) : NodeMap α :=
  ⟨(map.slots ++ Array.replicate (id.index + 1 - map.slots.size) none).setIfInBounds
    id.index (some value)⟩

def erase (map : NodeMap α) (id : NodeId) : NodeMap α :=
  ⟨map.slots.modify id.index fun _ => none⟩

/-- Changes the value of a node; an id without a value changes nothing. -/
def modify (map : NodeMap α) (id : NodeId) (change : α → α) : NodeMap α :=
  ⟨map.slots.modify id.index (·.map change)⟩

/-- The number of values. -/
def size (map : NodeMap α) : Nat :=
  map.slots.countP Option.isSome

end NodeMap

end TemplateTree
