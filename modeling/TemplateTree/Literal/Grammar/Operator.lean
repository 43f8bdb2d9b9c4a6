import TemplateTree.Literal.Grammar.Type

/-! Binary operators, ranges and casts. -/

namespace TemplateTree.Literal

/-- The binary operators; one that begins with another comes before it. -/
def binaryOperators : List (String × Level) :=
  [("+=", .assign), ("-=", .assign), ("*=", .assign), ("/=", .assign), ("%=", .assign),
    ("^=", .assign), ("&=", .assign), ("|=", .assign), ("<<=", .assign), (">>=", .assign),
    ("&&", .and), ("||", .or), ("<<", .shift), (">>", .shift), ("==", .compare),
    ("<=", .compare), ("!=", .compare), (">=", .compare), ("+", .sum), ("-", .sum),
    ("*", .product), ("/", .product), ("%", .product), ("^", .bitXor), ("&", .bitAnd),
    ("|", .bitOr), ("<", .compare), (">", .compare)]

namespace Ahead

def binary? (trees : List Tree) : Option (String × Level) :=
  binaryOperators.find? fun (text, _) => operator text trees

/-- The level of the operator in front. -/
def level (trees : List Tree) : Level :=
  match binary? trees with
  | some (_, level) => level
  | none =>
    if operator "=" trees && !operator "=>" trees then .assign
    else if operator ".." trees then .range
    else if word "as" trees then .cast
    else .lowest

/-- Where the end of a range is missing. -/
def rangeEnd (structs : Bool) : Ahead := fun trees =>
  nothing trees || point trees || word "as" trees || !structs && group .brace trees ||
    anyOperator [",", ";", "?", "=>", "=", "+", "/", "%", "^", ">", "<=", "!=", "-=", "*=", "&=",
      "|=", "<<="] trees

/-- What could open generic arguments. -/
def angle : Ahead := fun trees =>
  operator "<" trees && !anyOperator ["<=", "<<="] trees

/-- What would apply to the type of a cast. -/
def castMisuse : Ahead := fun trees =>
  point trees || operator "?" trees || group .bracket trees || group .paren trees

end Ahead

namespace Grammar

open Scanner

variable (g : Grammar)

def scanRangeEnd (structs : Bool) : Scanner Unit := do
  if ← operator? "..=" then g.operand structs .range
  else if ← sees (.operator "...") then failure
  else do
    operator ".."
    if !(← sees (.rangeEnd structs)) then g.operand structs .range

/-- A cast of what has been written since `start`. It gets parentheses where its type takes
no arguments and what follows looks like arguments. -/
def scanCast (start : Scan) : Scanner Unit := do
  word "as"
  let _ ← g.type false
  if ← sees .castMisuse then failure
  if Ahead.anyWord ["self", "super", "crate", "try"] (← get).written then
    if ← sees .angle then encloseSince start

/-- The operators behind an expression that bind at least like `base`, with their operands;
the expression has been written since `start`. Comparisons are not chained, and a range takes
no operator. -/
def scanOperators (structs : Bool) (start : Scan) (base : Level) (first : Form) :
    Scanner Form :=
  iterate (fun form => do
    let rest := (← get).rest
    let level := Ahead.level rest
    if form = .range ∨ level = .lowest ∨ level.rank < base.rank then return none
    match Ahead.binary? rest with
    | some (text, level) => do
      if level = .compare ∧ form = .comparison then failure
      operator text
      g.operand structs level
      return some (if level = .compare then .comparison else .plain)
    | none =>
      if level = .assign then do
        operator "="
        g.operand structs .assign
        return some .plain
      else if level = .range then do
        g.scanRangeEnd structs
        return some .range
      else do
        g.scanCast start
        return some .plain) first

/-- The operators that belong to an operand behind an operator of this level. -/
def scanTighter (structs : Bool) (start : Scan) (level : Level) (first : Form) :
    Scanner Form :=
  iterate (fun form => do
    let rest := (← get).rest
    let next := Ahead.level rest
    if level.rank < next.rank ∨ level = next ∧ next = .assign then do
      let form ← g.scanOperators structs start next form
      return if (← get).rest.length = rest.length then none else some form
    else return none) first

end Grammar

end TemplateTree.Literal
