import TemplateTree.Literal.Grammar.Statement

/-! Embedded expressions. Reading keeps the trees and spaces the operators anew. -/

namespace TemplateTree.Literal

/-- The grammar with its parts inside each other up to a depth. -/
def Grammar.ofDepth : Nat → Grammar
  | 0 => {
    expression := fun _ => failure
    unary := fun _ => failure
    operand := fun _ _ => failure
    type := fun _ => failure
    bound := fun _ _ => failure
    pattern := failure
    statements := failure
    arms := failure
    fields := failure
    imports := fun _ => failure
    item := failure }
  | depth + 1 => {
    expression := fun structs => (ofDepth depth).scanExpression structs
    unary := fun structs => (ofDepth depth).scanUnary structs
    operand := fun structs level => (ofDepth depth).scanOperand structs level
    type := fun plus => (ofDepth depth).scanType plus
    bound := fun captures conditional => (ofDepth depth).scanBound captures conditional
    pattern := fun s => (ofDepth depth).scanPattern s
    statements := fun s => (ofDepth depth).scanStatements s
    arms := fun s => (ofDepth depth).scanArms s
    fields := fun s => scanFields (ofDepth depth) s
    imports := fun roots => (ofDepth depth).scanImports roots
    item := fun s => (ofDepth depth).scanItem s }

mutual

/-- How many trees there are, at all depths. -/
def Tree.size : Tree → Nat
  | .group _ trees => 1 + Tree.sizeAll trees
  | _ => 1

def Tree.sizeAll : List Tree → Nat
  | [] => 0
  | tree :: rest => tree.size + Tree.sizeAll rest

end

/-- An expression as the trees it is written with. -/
structure Expression where
  trees : List Tree

/-- Reads the expression at the front of the trees; tells whether all trees belong to it.
A part of the grammar inside another stands behind one of its trees, or is a bound where a
type stands, which bounds the depth. -/
def Expression.read (trees : List Tree) : Option (Expression × Bool) := do
  let grammar := Grammar.ofDepth (2 * Tree.sizeAll trees + 2)
  let (_, scan) ← (grammar.expression true).run { rest := trees }
  return (⟨scan.written.reverse⟩, scan.complete && scan.rest.isEmpty)

end TemplateTree.Literal
