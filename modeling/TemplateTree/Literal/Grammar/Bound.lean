import TemplateTree.Literal.Grammar.Generics

/-! Bounds: lifetimes, traits with the arguments of a call, and captures. -/

namespace TemplateTree.Literal

namespace Ahead

/-- What starts another bound behind a plus sign. -/
def bound (conditional : Bool) : Ahead := fun trees =>
  someWord trees || anyOperator ["::", "?"] trees || label trees || group .paren trees ||
    conditional && group .bracket trees

/-- Arguments of a call behind two colons. -/
def spacedArguments : Ahead := fun trees => operator "::" trees && third (group .paren) trees

end Ahead

namespace Grammar

open Scanner

/-- What has been written up to a name, without empty arguments behind the name. -/
def withoutArguments : List Tree → Option (List Tree)
  | .mark '>' _ :: .mark '<' _ :: .mark ':' _ :: .mark ':' _ :: written => some written
  | .mark '>' _ :: .mark '<' _ :: written => some written
  | .word text :: written => some (.word text :: written)
  | _ => none

variable (g : Grammar)

def scanResult (plus : Bool) : Scanner Unit := do
  if ← operator? "->" then do
    let _ ← g.type plus

/-- Arguments in parentheses behind the name of a trait, in place of generic ones. -/
def scanTraitArguments : Scanner Unit := do
  let spaced ← sees .spacedArguments
  if spaced || (← sees (.group .paren)) then
    match withoutArguments (← get).written with
    | some written => do
      modify fun s => { s with written }
      if spaced then skip 2
      inside .paren <| items do
        let _ ← g.type true
      g.scanResult false
    | none => return

/-- A trait as a bound; tells whether it is conditional. -/
def scanTrait (conditional : Bool) : Scanner Bool := do
  let binder ← sees (.word "for")
  if binder then g.scanBinder
  let marked ←
    if ← sees (.group .bracket) then do
      inside .bracket (word "const")
      pure true
    else word? "const"
  if marked && !conditional then failure
  let relaxed ← operator? "?"
  if relaxed && binder then failure
  let _ ← g.scanPath .type
  g.scanTraitArguments
  return marked

def scanCapture : Scanner Bool := do
  if ← sees .label then do
    label
    return true
  else do
    if !(← word? "Self") then name
    return false

def scanBound (captures conditional : Bool) : Scanner BoundForm := do
  if ← sees .label then do
    label
    return .lifetime
  if ← sees (.word "use") then do
    if !captures then failure
    take
    operator "<"
    arranged (.operator ">") scanCapture
    operator ">"
    return .captures
  let start ← get
  let marked ←
    if ← sees (.group .paren) then inside .paren (g.scanTrait conditional)
    else g.scanTrait conditional
  if marked then keepSince start
  return .trait

/-- Bounds with plus signs between them and maybe one behind; tells whether a trait is among
them. -/
def scanBounds (plus captures conditional : Bool) : Scanner Bool := do
  let first ← g.bound captures conditional
  iterate (fun found => do
    if !plus then return none
    if ← operator? "+" then
      if ← sees (.bound conditional) then do
        let next ← g.bound captures conditional
        return some (found || next = .trait)
    return none) (first = .trait)

end Grammar

end TemplateTree.Literal
