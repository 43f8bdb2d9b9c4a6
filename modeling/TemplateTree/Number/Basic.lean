import TemplateTree.Number.Shortest

/-! Numbers of templates: integers stay exact, everything else is double precision. -/

namespace TemplateTree

inductive Number where
  | integer (value : Int)
  | float (value : Double)
deriving DecidableEq, Repr

namespace Number

/-- An integer never equals a float, whatever their values. -/
def same : Number → Number → Bool
  | integer a, integer b => a == b
  | float a, float b => a.same b
  | _, _ => false

def display : Number → String
  | integer value => toString value
  | float value => value.display

/-- The integers that stay exact: those of 64 bits, with or without a sign. -/
def exactInteger (value : Int) : Bool :=
  -(twoTo 63 : Int) ≤ value && value < twoTo 64

end Number

end TemplateTree
