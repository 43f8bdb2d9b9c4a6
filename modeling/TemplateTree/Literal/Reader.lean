import TemplateTree.Literal.Basic
import TemplateTree.Literal.Lexer

/-! Reading template literals from token trees. A literal is one tree, or a minus sign and
a number. -/

namespace TemplateTree.Literal

/-- Reading goes on behind trees left over at the end of an expression, and the state tells
whether there were none: a fault further on is reported before them. -/
abbrev Reading := StateT Bool (Except Fault)

def Reading.fail {α : Type} (fault : Fault) : Reading α :=
  throw fault

def NumberConstant.negated (n : NumberConstant) : NumberConstant :=
  { n with negative := true }

def ofConstant : Constant → Reading Literal
  | .string text => return .string text
  | .number value => return .number value
  | .other _ => .fail .expectedValue

def ofWord (text : String) : Reading Literal :=
  if text = "true" then return .bool true
  else if text = "false" then return .bool false
  else if text = "null" then return .null
  else if isName text then .fail .expectedValue
  else .fail .malformed

def ofExpression (trees : List Tree) : Reading Literal :=
  match Expression.read trees with
  | some (value, complete) => do
    modify (· && complete)
    return .expression value
  | none => .fail .malformed

mutual

def ofTree : Tree → Reading Literal
  | .group .brace trees => do return .object (← entriesOf trees)
  | .group .bracket trees => do return .list (← itemsOf trees)
  | .group .paren trees => ofExpression trees
  | .word text => ofWord text
  | .constant value => ofConstant value
  | .mark _ _ => .fail .malformed

/-- Keys and values with commas between them and maybe one behind them. -/
def entriesOf : List Tree → Reading (List (StringConstant × Literal))
  | [] => return []
  | .constant (.string key) :: .mark ':' _ :: .mark '-' _ :: .constant (.number value) :: rest =>
    do return (key, .number value.negated) :: (← entriesAfter rest)
  | .constant (.string key) :: .mark ':' _ :: tree :: rest => do
    let value ← ofTree tree
    return (key, value) :: (← entriesAfter rest)
  | _ => .fail .malformed

def entriesAfter : List Tree → Reading (List (StringConstant × Literal))
  | [] => return []
  | .mark ',' _ :: rest => entriesOf rest
  | _ => .fail .malformed

/-- Literals with commas between them and maybe one behind them. -/
def itemsOf : List Tree → Reading (List Literal)
  | [] => return []
  | .mark '-' _ :: .constant (.number value) :: rest => do
    return .number value.negated :: (← itemsAfter rest)
  | tree :: rest => do
    let item ← ofTree tree
    return item :: (← itemsAfter rest)

def itemsAfter : List Tree → Reading (List Literal)
  | [] => return []
  | .mark ',' _ :: rest => itemsOf rest
  | _ => .fail .malformed

end

/-- The literal at the front of the trees, and what follows it. -/
def front : List Tree → Reading (Literal × List Tree)
  | [] => .fail .malformed
  | .mark '-' _ :: .constant (.number value) :: rest => return (.number value.negated, rest)
  | tree :: rest => do return (← ofTree tree, rest)

/-- Reads trees that are one literal. -/
def ofTrees (trees : List Tree) : Except Fault Literal :=
  match (front trees).run true with
  | .ok ((literal, []), true) => .ok literal
  | .ok _ => .error .malformed
  | .error fault => .error fault

def parse (source : String) : Except Fault Literal :=
  match Tree.scan source with
  | some trees => ofTrees trees
  | none => .error .malformed

end TemplateTree.Literal
