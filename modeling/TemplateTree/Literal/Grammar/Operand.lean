import TemplateTree.Literal.Grammar.Operator
import TemplateTree.Literal.Grammar.Pattern

/-! Operands: unary operators, and what stands between operators with the calls, fields and
indices behind it. -/

namespace TemplateTree.Literal

namespace Ahead

/-- What starts an expression that need not be there. -/
def value : Ahead := fun trees =>
  let mark (text : String) (longer : List String) : Bool :=
    operator text trees && !anyOperator longer trees
  someWord trees && !word "as" trees || someGroup trees || constant trees || label trees ||
    mark "!" ["!="] || mark "-" ["-=", "->"] || mark "*" ["*="] || mark "|" ["|="] ||
    mark "&" ["&="] || mark "<" ["<=", "<<="] || anyOperator ["..", "::", "#"] trees

/-- A `for` that binds, and no loop. -/
def binder : Ahead := pair (word "for") parameters

def closure : Ahead := fun trees =>
  operator "|" trees || anyWord ["move", "static"] trees || binder trees ||
    word "const" trees && !second (group .brace) trees ||
    word "async" trees && second (fun trees => operator "|" trees || word "move" trees) trees

def asyncBlock : Ahead := fun trees =>
  word "async" trees && (second (group .brace) trees ||
    second (word "move") trees && third (group .brace) trees)

def builtin : Ahead := pair (word "builtin") (operator "#")

def pathValue : Ahead := fun trees =>
  name trees || pathMark trees ||
    word "try" trees && second (anyOperator ["!", "::"]) trees

/-- A block, or an expression that ends in one, where it ends a statement. -/
def blockLike : Ahead := fun trees =>
  anyWord ["if", "while", "loop", "match", "unsafe"] trees ||
    word "for" trees && !binder trees ||
    anyWord ["try", "const"] trees && second (group .brace) trees ||
    group .brace trees || label trees

end Ahead

namespace Grammar

open Scanner

variable (g : Grammar)

/-- The operand of a word that may stand alone. -/
def scanValue? : Scanner Unit := do
  if ← sees .value then g.expression true

/-- Fields of a structure up to the end; two points take the others from an expression. -/
def scanFieldValues : Scanner Unit :=
  repeated do
    if ← sees .nothing then return false
    if ← operator? ".." then do
      if !(← sees .nothing) then g.expression true
      return false
    g.scanAttributes
    let named ← member
    let valued ← sees (.operator ":")
    if valued || !named then do
      operator ":"
      g.expression true
    if !(← sees .nothing) then operator ","
    return true

/-- A path, a macro call, or a structure. -/
def scanPathValue (structs : Bool) : Scanner Form := do
  let form ← g.scanQualifiedPath .value
  if form.isPlain && (← sees .callMark) then
    return if ← scanCall then .bracedCall else .plain
  if structs && (← sees (.group .brace)) then inside .brace g.scanFieldValues
  return .plain

/-- The content of an array: items, or an item and how often it occurs. -/
def scanArray : Scanner Unit := do
  if ← sees .nothing then return
  g.expression true
  if ← operator? ";" then g.expression true
  else if !(← sees .nothing) then do
    operator ","
    items (g.expression true)

/-- A block of constants without the attributes it holds for itself. -/
def withoutInnerAttributes : List Tree → List Tree
  | [.word "const", .group .brace (.mark '#' _ :: .mark '!' _ :: .group .bracket _ :: rest)] =>
    withoutInnerAttributes [.word "const", .group .brace rest]
  | trees => trees

/-- A parameter of a closure. Without a type, attributes in front of the pattern replace those
that it has. -/
def scanClosureParameter : Scanner Unit := do
  let (_, attributes) ← capture g.scanAttributes
  let (form, pattern) ← capture g.pattern
  if ← sees (.operator ":") then do
    write (attributes ++ pattern)
    operator ":"
    let _ ← g.type true
  else if form = .raw then write pattern
  else write (attributes ++ withoutInnerAttributes pattern)

def scanClosure (structs : Bool) : Scanner Unit := do
  if ← sees (.word "for") then g.scanBinder
  for text in ["const", "static", "async", "move"] do
    let _ ← word? text
  operator "|"
  listed (.operator "|") "," g.scanClosureParameter
  operator "|"
  if ← operator? "->" then do
    let _ ← g.type true
    g.scanBlock
  else g.expression structs

def scanIf : Scanner Unit :=
  repeated do
    word "if"
    g.expression false
    g.scanBlock
    if ← word? "else" then do
      if ← sees (.word "if") then return true
      g.scanBlock
    return false

def scanLoop : Scanner Unit := do
  if ← word? "while" then g.expression false
  else if ← word? "for" then do
    let _ ← g.scanPatterns
    word "in"
    g.expression false
  else word "loop"
  g.scanBody

def scanBreak (structs : Bool) : Scanner Unit := do
  if ← sees .label then do
    label
    if ← sees (.operator ":") then failure
  if structs || !(← sees (.group .brace)) then g.scanValue?

/-- An operation of the compiler, which stays as it is. -/
def scanBuiltin : Scanner Unit := do
  let start ← get
  word "builtin"
  operator "#"
  name
  takeIf (.group .paren)
  keepSince start

/-- Calls, fields, indices and question marks behind an expression. -/
def scanTrailers (first : Form) : Scanner Form :=
  iterate (fun form => do
    if ← sees (.group .paren) then do
      inside .paren <| items (g.expression true)
      return some .plain
    else if ← sees (.group .bracket) then do
      inside .bracket (g.expression true)
      return some .plain
    else if form = .range then return none
    else if ← sees .point then do
      operator "."
      if let .constant (.number number) :: _ := (← get).rest then
        if number.float then
          if ← indices number then return some .plain
      if ← word? "await" then return some .plain
      let named ← member
      if named && (← sees (.operator "::")) then do
        g.scanArguments
        if !(← sees (.group .paren)) then failure
      return some .plain
    else if ← operator? "?" then return some .plain
    else return none) first

/-- A block, or an expression that ends in one. -/
def scanBlockLike : Scanner Unit := do
  if ← sees .label then do
    label
    operator ":"
    if ← sees (.group .brace) then g.scanBody else g.scanLoop
  else if ← sees (.word "if") then g.scanIf
  else if ← sees (.anyWord ["while", "for", "loop"]) then g.scanLoop
  else if ← word? "match" then do
    g.expression false
    inside .brace do
      g.scanInnerAttributes
      g.arms
  else if ← word? "try" then g.scanBlock
  else do
    let _ ← take? (.anyWord ["unsafe", "const"])
    g.scanBody

def scanAtom (structs : Bool) : Scanner Form := do
  if ← sees .blockLike then do
    g.scanBlockLike
    return .block
  else if ← sees .builtin then do
    scanBuiltin
    return .raw
  else if ← sees .pathValue then g.scanPathValue structs
  else if ← sees (.operator "..") then do
    g.scanRangeEnd structs
    return .range
  else if ← sees (.word "become") then do
    let start ← get
    take
    g.expression true
    keepSince start
    return .raw
  else do
    if ← sees .constant then constant
    else if ← sees .asyncBlock then do
      take
      let _ ← word? "move"
      g.scanBlock
    else if ← sees .closure then g.scanClosure structs
    else if ← sees (.group .paren) then inside .paren (items (g.expression true))
    else if ← sees (.group .bracket) then inside .bracket g.scanArray
    else if ← word? "break" then g.scanBreak structs
    else if ← word? "continue" then label?
    else if ← take? (.anyWord ["return", "yield"]) then g.scanValue?
    else if ← word? "let" then do
      let _ ← g.scanPatterns
      operator "="
      let start ← get
      let form ← g.unary structs
      let _ ← g.scanOperators structs start .compare form
    else word "_"
    return .plain

/-- An operand with its unary operators. What stays as it was does so with its attributes,
and a range takes none. -/
def scanUnary (structs : Bool) : Scanner Form := do
  let start ← get
  g.scanAttributes
  let attributed := (← get).rest.length ≠ start.rest.length
  if ← operator? "&" then do
    if ← sees (.pair (.word "raw") (.anyWord ["const", "mut"])) then do
      take
      take
    else do
      let _ ← word? "mut"
    let _ ← g.unary structs
    return .plain
  else if ← sees (.anyOperator ["*", "!", "-"]) then do
    if !(← operator? "*") then
      if !(← operator? "!") then operator "-"
    let _ ← g.unary structs
    return .plain
  else do
    let form ← g.scanTrailers (← g.scanAtom structs)
    if form = .raw then keepSince start
    if form = .range ∧ attributed then failure
    return form

def scanExpression (structs : Bool) : Scanner Unit := do
  let start ← get
  let form ← g.scanUnary structs
  let _ ← g.scanOperators structs start .lowest form

def scanOperand (structs : Bool) (level : Level) : Scanner Unit := do
  let start ← get
  let form ← g.scanUnary structs
  let _ ← g.scanTighter structs start level form

end Grammar

end TemplateTree.Literal
