import TemplateTree.Literal.Grammar.Member
import TemplateTree.Literal.Grammar.Path

/-! Patterns. -/

namespace TemplateTree.Literal

namespace Ahead

/-- A pattern that starts with a path. -/
def pathPattern : Ahead := fun trees =>
  name trees && second (fun trees => anyOperator ["::", "!", ".."] trees ||
      group .brace trees || group .paren trees) trees ||
    word "self" trees && second (operator "::") trees ||
    anyOperator ["::", "<"] trees || anyWord ["Self", "super", "crate"] trees

/-- Where the bound of a range is missing. -/
def rangePatternEnd : Ahead := fun trees =>
  nothing trees || anyOperator ["|", "=", ",", ";"] trees || word "if" trees ||
    operator ":" trees && !operator "::" trees

/-- A bar between patterns. -/
def bar : Ahead := fun trees => operator "|" trees && !anyOperator ["||", "|="] trees

end Ahead

namespace Grammar

open Scanner

variable (g : Grammar)

/-- A bound of a range; tells whether there is one. -/
def scanPatternBound : Scanner Bool := do
  if ← sees .rangePatternEnd then return false
  if ← sees .constant then constant
  else if ← sees (.either .name .pathMark) then do
    let _ ← g.scanQualifiedPath .value
  else do
    word "const"
    g.scanBody
  return true

/-- The end of a range behind its mark. -/
def scanPatternEnd (closed : Bool) : Scanner PatternForm := do
  if ← g.scanPatternBound then return .plain
  else if closed then failure
  else return .openRange

/-- A range behind its start, if it is one. Three points stand for a closed range. -/
def scanPatternRange : Scanner PatternForm := do
  if ← sees (.operator "...") then do
    skip 3
    write (Tree.operator "..=".toList)
    g.scanPatternEnd true
  else if ← operator? "..=" then g.scanPatternEnd true
  else if ← operator? ".." then g.scanPatternEnd false
  else return .plain

/-- Patterns with bars between them. -/
def scanPatterns : Scanner PatternForm := do
  let leading ← operator? "|"
  let first ← g.pattern
  let alternatives ← sees .bar
  repeated do
    if ← sees .bar then do
      operator "|"
      let _ ← g.pattern
      return true
    else return false
  return if leading || alternatives then .plain else first

/-- A field of a structure. One with a box stays as it is. -/
def scanFieldPattern : Scanner Unit := do
  let start ← get
  let boxed ← word? "box"
  let reference ← word? "ref"
  let mutable ← word? "mut"
  if boxed || reference || mutable then do
    name
    if boxed then keepSince start
  else do
    let named ← member
    let valued ← sees (.operator ":")
    if valued || !named then do
      operator ":"
      let _ ← g.scanPatterns

/-- Fields of a structure up to two points or the end. -/
def scanFieldPatterns : Scanner Unit :=
  repeated do
    if ← sees .nothing then return false
    g.scanAttributes
    if ← operator? ".." then return false
    g.scanFieldPattern
    if !(← sees .nothing) then operator ","
    return true

def scanPathPattern : Scanner PatternForm := do
  let form ← g.scanQualifiedPath .value
  if form.isPlain && (← sees .callMark) then do
    let _ ← scanCall
    return .plain
  if ← sees (.group .brace) then do
    inside .brace g.scanFieldPatterns
    return .plain
  if ← sees (.group .paren) then do
    inside .paren <| items do
      let _ ← g.scanPatterns
    return .plain
  g.scanPatternRange

def scanPattern : Scanner PatternForm := do
  let start ← get
  if ← sees .pathPattern then g.scanPathPattern
  else if ← word? "_" then return .plain
  else if ← word? "box" then do
    let _ ← g.pattern
    keepSince start
    return .raw
  else if ← sees (.either .constant (.word "const")) then do
    let _ ← g.scanPatternBound
    g.scanPatternRange
  else if ← sees (.either .name (.anyWord ["ref", "mut", "self"])) then do
    let _ ← word? "ref"
    let _ ← word? "mut"
    if !(← word? "self") then name
    if ← operator? "@" then do
      let _ ← g.pattern
    return .plain
  else if ← operator? "&" then do
    let _ ← word? "mut"
    let _ ← g.pattern
    return .plain
  else if ← sees (.group .paren) then do
    inside .paren <| items do
      let _ ← g.scanPatterns
    return .plain
  else if ← sees (.group .bracket) then do
    inside .bracket <| items do
      if (← g.scanPatterns) = .openRange then failure
    return .plain
  else if ← sees (.operator "...") then failure
  else do
    let closed ← operator? "..="
    if !closed then operator ".."
    if ← g.scanPatternBound then return .openRange
    else if closed then failure
    else return .plain

end Grammar

end TemplateTree.Literal
