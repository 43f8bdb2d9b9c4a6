import TemplateTree.Literal.Grammar.Basic

/-! Attributes, blocks, and the macro calls and plain paths that occur in both. -/

namespace TemplateTree.Literal

/-- The name of a module, also a relative one. -/
def Ahead.moduleName : Ahead :=
  fun trees => name trees || anyWord ["super", "self", "Self", "crate"] trees

/-- The exclamation mark of a macro call. -/
def Ahead.callMark : Ahead :=
  fun trees => operator "!" trees && !operator "!=" trees

namespace Grammar

open Scanner

/-- A path of names without arguments. -/
def scanPlainPath : Scanner Unit := do
  let _ ← operator? "::"
  takeIf .moduleName
  repeated do
    if ← operator? "::" then do takeIf .moduleName; return true
    else return false

/-- A macro call behind its path; tells whether it has braces. Its arguments stay as they
are. -/
def scanCall : Scanner Bool := do
  operator "!"
  let braced ← sees (.group .brace)
  takeIf .someGroup
  return braced

variable (g : Grammar)

/-- The content of an attribute: a path with a group or a value. -/
def scanMeta : Scanner Unit := do
  if !(← word? "unsafe") then scanPlainPath
  if ← sees .someGroup then take
  else if ← operator? "=" then do
    if ← sees (.pair (.operator "#") (.group .bracket)) then failure
    g.expression true

/-- Attributes in front of something. -/
def scanAttributes : Scanner Unit :=
  repeated do
    if ← operator? "#" then do
      inside .bracket g.scanMeta
      return true
    else return false

/-- Attributes of what encloses them. -/
def scanInnerAttributes : Scanner Unit :=
  repeated do
    if ← sees (.pair (.operator "#") (.operator "!")) then do
      operator "#"
      operator "!"
      inside .bracket g.scanMeta
      return true
    else return false

/-- Statements in braces. -/
def scanBlock : Scanner Unit :=
  inside .brace g.statements

/-- Statements in braces, where attributes of the block may stand before them. -/
def scanBody : Scanner Unit :=
  inside .brace do
    g.scanInnerAttributes
    g.statements

end Grammar

end TemplateTree.Literal
