import TemplateTree.Literal.Grammar.Item
import TemplateTree.Literal.Grammar.Operand

/-! Statements and the arms of a match. Both hold expressions that a block ends. -/

namespace TemplateTree.Literal

namespace Ahead

/-- A macro call in braces behind its path, where it is a statement of its own. -/
def statementCall : Ahead := fun trees =>
  operator "!" trees && second (group .brace) trees &&
    !third (either point (operator "?")) trees

/-- A macro call that gives a name to something, behind its path. -/
def namingCall : Ahead := pair (operator "!") (either name (word "try"))

/-- What applies to an expression in front of it, other than a member or a question mark. -/
def application : Ahead := fun trees =>
  group .paren trees || group .bracket trees || level trees != .lowest

/-- A function from its word `async` on. -/
def asyncFunction : Ahead := pair (word "async") (anyWord ["unsafe", "extern", "fn"])

/-- What makes a word `const` the start of an expression. -/
def constantExpression : Ahead := fun trees =>
  group .brace trees || operator "|" trees || anyWord ["static", "move"] trees ||
    word "async" trees && !asyncFunction trees

/-- What starts an item where a statement stands. -/
def item : Ahead := fun trees =>
  anyWord ["pub", "extern", "use", "fn", "mod", "type", "struct", "enum", "trait", "impl",
      "macro"] trees ||
    alone (word "crate") (operator "::") trees ||
    pair (word "static") (either (word "mut") name) trees ||
    alone (word "const") constantExpression trees ||
    alone (word "unsafe") (group .brace) trees ||
    asyncFunction trees ||
    pair (word "union") name trees ||
    automaticTrait trees ||
    pair (word "default") (anyWord ["unsafe", "impl"]) trees

end Ahead

namespace Grammar

open Scanner

variable (g : Grammar)

/-- An operand at the start of a statement. A macro call in braces gets parentheses before
what would be a statement of its own behind it. -/
def scanStatementOperand : Scanner Form := do
  let start ← get
  if (← sees .pathValue) && !(← sees .builtin) then do
    let form ← g.scanPathValue true
    if form = .bracedCall then
      if ← sees .application then encloseSince start
    g.scanTrailers form
  else g.scanUnary true

/-- An expression that a block ends at its start. What stays as it was loses the attributes
in front of it. -/
def scanLeading (attributes : List Tree) (operand : Scanner Form) : Scanner Form := do
  let start ← get
  let (form, trees) ← capture do
    if ← sees .blockLike then do
      g.scanBlockLike
      return .block
    else operand
  write (if form = .raw then trees else attributes ++ trees)
  if form ≠ .block then g.scanOperators true start .lowest form
  else if ← sees (.either .point (.operator "?")) then do
    let form ← g.scanTrailers form
    g.scanOperators true start .lowest form
  else return form

/-- The arms of a match. A comma may lack behind a block. -/
def scanArms : Scanner Unit :=
  repeated do
    if ← sees .nothing then return false
    g.scanAttributes
    let _ ← g.scanPatterns
    if ← word? "if" then g.expression true
    operator "=>"
    let (_, attributes) ← capture g.scanAttributes
    let form ← g.scanLeading attributes (g.scanUnary true)
    if !(← operator? ",") then
      if form ≠ .block then
        if !(← sees .nothing) then failure
    return true

/-- A declaration of variables. Its value may not end in braces before an `else`. -/
def scanLet : Scanner Unit := do
  word "let"
  let _ ← g.pattern
  if ← operator? ":" then do
    let _ ← g.type true
  if ← operator? "=" then do
    g.expression true
    let braced := (← get).written.head? matches some (.group .brace _)
    if !braced then
      if ← word? "else" then g.scanBlock
  operator ";"

/-- A statement; tells whether it has to be the last. -/
def scanStatement : Scanner Bool := do
  let start ← get
  let (_, attributes) ← capture g.scanAttributes
  if ← seesBehind scanPlainPath .statementCall then do
    write attributes
    scanPlainPath
    let _ ← scanCall
    let _ ← operator? ";"
    return false
  else if ← sees (.word "let") then do
    write attributes
    g.scanLet
    return false
  else if (← sees .item) || (← seesBehind scanPlainPath .namingCall) then do
    write attributes
    if ← g.scanPlainItem then keepSince start
    return false
  else do
    let form ← g.scanLeading attributes g.scanStatementOperand
    if ← operator? ";" then return false
    return form ≠ .block ∧ form ≠ .bracedCall

/-- The content of a block. -/
def scanStatements : Scanner Unit :=
  repeated do
    if ← operator? ";" then return true
    if ← sees .nothing then return false
    let last ← g.scanStatement
    if last then
      if !(← sees .nothing) then failure
    return true

end Grammar

end TemplateTree.Literal
