import TemplateTree.Literal.Grammar.Associated

/-! Items of modules. The functions for those that may have no meaning of their own tell so;
such an item stays as it is. -/

namespace TemplateTree.Literal

namespace Ahead

def importName : Ahead := fun trees => name trees || anyWord ["self", "super", "crate", "try"] trees

def automaticTrait : Ahead := pair (word "auto") (word "trait")

def implementation : Ahead := either (word "impl") (alone (word "default") (operator "!"))

/-- A word that says an item may only be used with care, before one that passes a test. -/
def guarded (test : Ahead) : Ahead := fun trees => test (past "unsafe" trees)

end Ahead

namespace Grammar

open Scanner

variable (g : Grammar)

/-- Items in braces. -/
def scanItems (item : Scanner Unit) : Scanner Unit :=
  inside .brace do
    g.scanInnerAttributes
    repeated do
      if ← sees .nothing then return false
      item
      return true

/-- A tree of imports; tells whether a path in braces starts from the root. -/
def scanImports (roots : Bool) : Scanner Bool := do
  let deep ← iterate (fun _ => do
    if ← sees (.pair .importName (.operator "::")) then do
      take
      operator "::"
      return some true
    else return none) false
  let roots := roots && !deep
  if ← take? .importName then do
    if ← word? "as" then takeIf .nameOrBlank
    return false
  else if ← operator? "*" then return false
  else inside .brace <| iterate (fun found => do
    if ← sees .nothing then return none
    let rooted ← if roots then operator? "::" else pure false
    let inner ← g.imports (roots && !rooted)
    if !(← sees .nothing) then operator ","
    return some (found || rooted || inner)) false

def scanImportItem : Scanner Bool := do
  word "use"
  let rooted ← operator? "::"
  let raw ← g.scanImports (!rooted)
  operator ";"
  return raw

def scanCrateItem : Scanner Unit := do
  word "extern"
  word "crate"
  if !(← word? "self") then name
  if ← word? "as" then takeIf .nameOrBlank
  operator ";"

def scanForeignBlock : Scanner Unit := do
  let _ ← word? "unsafe"
  scanInterface
  g.scanItems g.scanForeignItem

/-- A static variable; tells whether it lacks its type or its value. -/
def scanStaticItem : Scanner Bool := do
  word "static"
  let _ ← word? "mut"
  name
  let typed := !(← sees (.operator "="))
  if typed then do
    operator ":"
    let _ ← g.type true
  let valued ← operator? "="
  if valued then g.expression true
  operator ";"
  return !typed || !valued

def scanModule : Scanner Unit := do
  let _ ← word? "unsafe"
  word "mod"
  if !(← word? "try") then name
  if !(← operator? ";") then g.scanItems g.item

def scanStructure : Scanner Unit := do
  word "struct"
  name
  let _ ← g.scanParameters
  let conditional ← g.scanWhere
  if ← sees (.group .brace) then inside .brace g.scanFields
  else do
    if !conditional && (← sees (.group .paren)) then do
      inside .paren g.scanTupleFields
      let _ ← g.scanWhere
    operator ";"

/-- A variant of an enumeration. Who sees it is left out. -/
def scanVariant : Scanner Unit := do
  g.scanAttributes
  let _ ← capture scanVisibility
  name
  if ← sees (.group .brace) then inside .brace g.scanFields
  else if ← sees (.group .paren) then inside .paren g.scanTupleFields
  if ← operator? "=" then g.expression true

def scanEnumeration : Scanner Unit := do
  word "enum"
  name
  let _ ← g.scanParameters
  let _ ← g.scanWhere
  inside .brace (items g.scanVariant)

def scanUnion : Scanner Unit := do
  word "union"
  name
  let _ ← g.scanParameters
  let _ ← g.scanWhere
  inside .brace g.scanFields

/-- A trait, or another name for bounds. -/
def scanTraitDefinition : Scanner Unit := do
  let guarded ← word? "unsafe"
  let automatic ← word? "auto"
  word "trait"
  name
  let _ ← g.scanParameters
  if !guarded && !automatic && (← sees (.operator "=")) then do
    operator "="
    listed (.either (.word "where") (.operator ";")) "+" do
      let _ ← g.bound false false
    let _ ← g.scanWhere
    operator ";"
  else do
    let _ ← g.scanSupertraits
    let _ ← g.scanWhere
    g.scanItems g.scanTraitItem

/-- An implementation; tells whether it is constant, or is for a trait that is no path. -/
def scanImplementation : Scanner Bool := do
  let _ ← word? "default"
  let _ ← word? "unsafe"
  word "impl"
  if ← sees .parameters then do
    let _ ← g.scanParameters
  let relaxed ← take? (.pair (.operator "?") (.word "const"))
  let constant ← word? "const"
  let negative ← sees (.alone (.operator "!") (.group .brace))
  if negative then operator "!"
  let form ← g.type true
  let ofTrait ← word? "for"
  if ofTrait then do
    let _ ← g.type true
  else if negative then failure
  let _ ← g.scanWhere
  g.scanItems g.scanImplementationItem
  return relaxed || constant || ofTrait && !form.isPath

/-- A macro that is defined like a function. -/
def scanDefinition : Scanner Unit := do
  word "macro"
  name
  let _ ← take? (.group .paren)
  takeIf (.group .brace)

/-- A macro call, maybe with a name of its own. -/
def scanNamedCall : Scanner Unit := do
  scanPlainPath
  operator "!"
  if !(← word? "try") then do
    let _ ← take? .name
  let braced ← sees (.group .brace)
  takeIf .someGroup
  if !braced then operator ";"

/-- An item behind its attributes; tells whether it stays as it is. -/
def scanPlainItem : Scanner Bool := do
  let visible ← scanVisibility
  let plain (part : Scanner Unit) : Scanner Bool := do part; return false
  if ← sees (.signature false) then g.scanFunction
  else if ← sees (.pair (.word "extern") (.word "crate")) then
    plain scanCrateItem
  else if ← sees (.word "use") then g.scanImportItem
  else if ← sees (.word "static") then g.scanStaticItem
  else if ← sees (.word "const") then g.scanConstantItem true
  else if ← sees (.guarded (.word "mod")) then plain g.scanModule
  else if ← sees (.word "type") then do
    let (bounded, defined) ← g.scanNamedType .beforeDefinition
    return bounded || !defined
  else if ← sees (.word "struct") then plain g.scanStructure
  else if ← sees (.word "enum") then plain g.scanEnumeration
  else if ← sees (.pair (.word "union") .name) then plain g.scanUnion
  else if ← sees (.guarded (.either (.word "trait") .automaticTrait)) then
    plain g.scanTraitDefinition
  else if ← sees (.either .implementation (.guarded (.word "impl"))) then
    return (← g.scanImplementation) || visible
  else if ← sees (.word "macro") then do
    scanDefinition
    return true
  else if visible then failure
  else if ← sees (.guarded (.word "extern")) then plain g.scanForeignBlock
  else if ← sees .callItem then plain scanNamedCall
  else failure

def scanItem : Scanner Unit := scanKept do
  g.scanAttributes
  g.scanPlainItem

end Grammar

end TemplateTree.Literal
