import TemplateTree.Literal.Scanner

/-! Rust expressions with the types, patterns, blocks and items inside them, as a grammar
whose parts refer to each other. Each part is scanned by a function of the whole grammar. -/

namespace TemplateTree.Literal

/-- How tightly operators bind. -/
inductive Level where
  | lowest
  | assign
  | range
  | or
  | and
  | compare
  | bitOr
  | bitXor
  | bitAnd
  | shift
  | sum
  | product
  | cast
deriving DecidableEq

def Level.rank : Level → Nat
  | lowest => 0
  | assign => 1
  | range => 2
  | or => 3
  | and => 4
  | compare => 5
  | bitOr => 6
  | bitXor => 7
  | bitAnd => 8
  | shift => 9
  | sum => 10
  | product => 11
  | cast => 12

/-- What an expression is, as far as its surroundings ask. -/
inductive Form where
  | plain
  | comparison
  | range
  /-- Ends a statement by itself. -/
  | block
  /-- A macro call in braces. -/
  | bracedCall
  /-- Written as it was. -/
  | raw
deriving DecidableEq

inductive TypeForm where
  | other
  /-- One name, maybe with arguments. -/
  | name
  | path
  /-- A single bound. -/
  | bound
  /-- A single bound in parentheses. -/
  | enclosedBound
deriving DecidableEq

def TypeForm.isPath : TypeForm → Bool
  | name | path => true
  | other | bound | enclosedBound => false

inductive BoundForm where
  | lifetime
  | captures
  | trait
deriving DecidableEq

inductive PatternForm where
  | plain
  /-- A range without one of its ends. -/
  | openRange
  /-- Written as it was. -/
  | raw
deriving DecidableEq

/-- The parts of the language that contain each other. -/
structure Grammar where
  /-- `structs` tells whether braces behind a path are read as its fields. -/
  expression : (structs : Bool) → Scanner Unit
  unary : (structs : Bool) → Scanner Form
  /-- The operand behind an operator, with the operators that bind more tightly. -/
  operand : (structs : Bool) → Level → Scanner Unit
  /-- `plus` tells whether bounds are added by plus signs. -/
  type : (plus : Bool) → Scanner TypeForm
  bound : (captures conditional : Bool) → Scanner BoundForm
  /-- A pattern without alternatives. -/
  pattern : Scanner PatternForm
  /-- The content of a block. -/
  statements : Scanner Unit
  /-- The arms of a match. -/
  arms : Scanner Unit
  /-- The named fields of a structure. -/
  fields : Scanner Unit
  /-- A tree of imports; tells whether a path in it starts from the root. -/
  imports : (roots : Bool) → Scanner Bool
  item : Scanner Unit

end TemplateTree.Literal
