import TemplateTree.Literal.Grammar.Path

/-! Generic parameters with their conditions. -/

namespace TemplateTree.Literal

namespace Ahead

/-- Generic parameters, and no type at the start of a path. -/
def parameters : Ahead := fun trees =>
  let named (test : Ahead) : Ahead :=
    fun trees => second (fun trees => label trees || name trees) trees && third test trees
  operator "<" trees &&
    (second (anyOperator [">", "#"]) trees || second (word "const") trees ||
      named (anyOperator [">", ",", "="]) trees ||
      named (operator ":") trees && !named (operator "::") trees)

/-- Where the conditions of a `where` clause end. -/
def conditionsEnd : Ahead := fun trees =>
  nothing trees || group .brace trees || anyOperator [",", ";", "="] trees ||
    operator ":" trees && !operator "::" trees

end Ahead

namespace Grammar

open Scanner

variable (g : Grammar)

/-- A bound on a parameter or a type. -/
def scanParameterBound : Scanner Unit := do
  let _ ← g.bound false true

/-- A generic parameter; tells whether it is a lifetime. A colon without bounds is left
out. -/
def scanParameter : Scanner Bool := do
  g.scanAttributes
  if ← sees .label then do
    label
    if ← sees (.operator ":") then
      unlessEmpty (operator ":") <|
        scanBoundsUntil (.either .nothing (.anyOperator [",", ">"])) label
    return true
  if ← word? "const" then do
    name
    operator ":"
    let _ ← g.type true
    if ← operator? "=" then g.scanConstant
  else do
    name
    if ← sees (.operator ":") then
      unlessEmpty (operator ":") <|
        scanBoundsUntil (.either .nothing (.anyOperator [",", ">", "="]))
          g.scanParameterBound
    if ← operator? "=" then do
      let _ ← g.type true
  return false

/-- Lifetimes and types that a `for` binds. -/
def scanBinder : Scanner Unit := do
  word "for"
  operator "<"
  listed (.operator ">") "," do
    let _ ← g.scanParameter
  operator ">"

/-- Generic parameters in angle brackets, the lifetimes first; tells whether there are
brackets. Empty ones are left out. -/
def scanParameters : Scanner Bool := do
  if ← sees (.operator "<") then do
    let (_, content) ← capture do
      operator "<"
      arranged (.operator ">") do
        g.scanAttributes
        if ← word? "_" then return false else g.scanParameter
      operator ">"
    if 2 < content.length then write content
    return true
  else return false

/-- A condition of a `where` clause. -/
def scanCondition : Scanner Unit := do
  if ← sees (.pair .label (.operator ":")) then do
    label
    operator ":"
    scanBoundsUntil (.either .conditionsEnd (.operator ":")) label
  else do
    if ← sees (.word "for") then g.scanBinder
    let _ ← g.type true
    operator ":"
    scanBoundsUntil .conditionsEnd g.scanParameterBound

/-- A `where` clause, if there is one; tells whether there is. It is left out without
conditions. -/
def scanWhere : Scanner Bool := do
  if ← sees (.word "where") then do
    unlessEmpty (word "where") do
      if ← sees .parameters then failure
      repeated do
        if ← sees .conditionsEnd then return false
        g.scanCondition
        operator? ","
    return true
  else return false

end Grammar

end TemplateTree.Literal
