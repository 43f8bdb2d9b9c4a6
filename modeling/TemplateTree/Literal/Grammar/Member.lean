import TemplateTree.Literal.Grammar.Basic
import TemplateTree.Literal.Number

/-! Members of structures and tuples: names and indices. -/

namespace TemplateTree.Literal

/-- A number as the index of a member, written in plain decimal digits. -/
def NumberConstant.index? (number : NumberConstant) : Option Tree :=
  if !number.float && number.suffix.isEmpty && number.digits.toNat?.any (· < UInt32.size) then
    some (.constant (.number { number with source := number.digits }))
  else none

/-- The indices that a float is written with; the last is missing behind a last point. -/
def NumberConstant.indices? (number : NumberConstant) : Option (List Tree) :=
  let parts := number.source.toList.splitOn '.'
  let parts := if parts.getLast? = some [] then parts.dropLast else parts
  parts.mapM fun part => do (← NumberConstant.ofSource? part).index?

namespace Scanner

/-- A member; tells whether it is a name. -/
def member : Scanner Bool := do
  match (← get).rest with
  | .constant (.number number) :: _ =>
    match number.index? with
    | some index => do
      skip 1
      write [index]
      return false
    | none => failure
  | _ => do
    name
    return true

/-- Indices of nested tuples that are written like a float; tells whether the last point has
an index behind it. -/
def indices (number : NumberConstant) : Scanner Bool := do
  match number.indices? with
  | some trees => do
    skip 1
    write (trees.intersperse (.mark '.' false))
    if number.source.endsWith "." then do
      write [.mark '.' false]
      return false
    else return true
  | none => failure

end Scanner

end TemplateTree.Literal
