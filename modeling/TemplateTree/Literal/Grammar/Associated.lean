import TemplateTree.Literal.Grammar.Signature

/-! Items inside traits, implementations and foreign blocks. Forms that are read but have no
meaning of their own stay as they are. -/

namespace TemplateTree.Literal

namespace Ahead

/-- A name, or the word for none. -/
def nameOrBlank : Ahead := fun trees => name trees || word "_" trees

/-- What starts a macro call as an item. -/
def callItem : Ahead := fun trees =>
  name trees || anyWord ["self", "super", "crate"] trees || operator "::" trees

/-- A static variable, maybe with a word about its safety. -/
def staticItem : Ahead :=
  either (word "static") (pair (anyWord ["unsafe", "safe"]) (word "static"))

/-- Where the bounds behind the name of a type or a trait end. -/
def boundsEnd : Ahead := fun trees =>
  anyWord ["where"] trees || group .brace trees || anyOperator ["=", ";"] trees

end Ahead

/-- Where the conditions of a named type stand. -/
inductive ConditionsPlace where
  | beforeDefinition
  | afterDefinition
  | anywhere
deriving DecidableEq

namespace Grammar

open Scanner

variable (g : Grammar)

/-- Runs an item up to its end; what it marks stays as it was. -/
def scanKept (item : Scanner Bool) : Scanner Unit := do
  let start ← get
  if ← item then keepSince start

/-- A macro call behind its path, with what ends it. -/
def scanCallEnd : Scanner Unit := do
  if !(← scanCall) then operator ";"

def scanCallItem : Scanner Unit := do
  if !(← sees .callItem) then failure
  scanPlainPath
  scanCallEnd

/-- Bounds behind a colon; tells whether there is a colon. Without bounds it is left out. -/
def scanSupertraits : Scanner Bool := do
  if ← sees (.operator ":") then do
    unlessEmpty (operator ":") (listed .boundsEnd "+" g.scanParameterBound)
    return true
  else return false

/-- A function; tells whether it lacks a body. -/
def scanFunction : Scanner Bool := do
  let _ ← g.scanSignature false
  if ← operator? ";" then return true
  g.scanBody
  return false

/-- A constant; tells whether it has parameters or conditions, or lacks a value that is
`required`. -/
def scanConstantItem (required : Bool) : Scanner Bool := do
  word "const"
  takeIf .nameOrBlank
  let generic ← g.scanParameters
  operator ":"
  let _ ← g.type true
  let valued ← operator? "="
  if valued then g.expression true
  let conditional ← g.scanWhere
  operator ";"
  return generic || conditional || required && !valued

/-- A named type; tells whether it has a colon and whether it has a definition. -/
def scanNamedType (place : ConditionsPlace) : Scanner (Bool × Bool) := do
  word "type"
  name
  let _ ← g.scanParameters
  let bounded ← g.scanSupertraits
  let early ← if place = .afterDefinition then pure false else g.scanWhere
  let defined ← operator? "="
  if defined then do
    let _ ← g.type true
  if place = .afterDefinition ∨ place = .anywhere ∧ ¬ early then do
    let _ ← g.scanWhere
  operator ";"
  return (bounded, defined)

/-- An item of a trait. One with a visibility or a `default` stays as it is. -/
def scanTraitItem : Scanner Unit := scanKept do
  g.scanAttributes
  let visible ← scanVisibility
  let marked := (← word? "default") || visible
  if ← sees (.signature false) then do
    let _ ← g.scanFunction
    return marked
  else if ← sees (.word "const") then
    return (← g.scanConstantItem false) || marked
  else if ← sees (.word "type") then do
    let _ ← g.scanNamedType .afterDefinition
    return marked
  else if marked then failure
  else do
    scanCallItem
    return false

/-- An item of an implementation. -/
def scanImplementationItem : Scanner Unit := scanKept do
  g.scanAttributes
  let visible ← scanVisibility
  let marked ← take? (.alone (.word "default") (.operator "!"))
  if ← sees (.signature false) then g.scanFunction
  else if ← sees (.word "const") then g.scanConstantItem true
  else if ← sees (.word "type") then do
    let (bounded, defined) ← g.scanNamedType .afterDefinition
    return bounded || !defined
  else if visible || marked then failure
  else do
    scanCallItem
    return false

/-- A static variable in a foreign block; tells whether it has a word about its safety or a
value. -/
def scanForeignStatic : Scanner Bool := do
  let marked ← take? (.anyWord ["unsafe", "safe"])
  word "static"
  let _ ← word? "mut"
  name
  operator ":"
  let _ ← g.type true
  let valued ← operator? "="
  if valued then g.expression true
  operator ";"
  return marked || valued

/-- An item of a foreign block. -/
def scanForeignItem : Scanner Unit := scanKept do
  g.scanAttributes
  let visible ← scanVisibility
  if ← sees (.signature true) then do
    let safe ← g.scanSignature true
    let bodied ← sees (.group .brace)
    if bodied then g.scanBody else operator ";"
    return safe || bodied
  else if ← sees .staticItem then g.scanForeignStatic
  else if ← sees (.word "type") then do
    let (bounded, defined) ← g.scanNamedType .anywhere
    return bounded || defined
  else if visible then failure
  else do
    scanCallItem
    return false

end Grammar

end TemplateTree.Literal
