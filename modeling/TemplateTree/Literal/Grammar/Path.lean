import TemplateTree.Literal.Grammar.Attribute

/-! Paths with generic arguments. -/

namespace TemplateTree.Literal

/-- Where a path stands: arguments in values follow two colons. -/
inductive PathStyle where
  | value
  | type
deriving DecidableEq

structure PathForm where
  /-- Whether it starts at a type in angle brackets. -/
  qualified : Bool := false
  /-- Whether it starts with colons. -/
  rooted : Bool := false
  segments : Nat
  generic : Bool

/-- Whether a path is names alone. -/
def PathForm.isPlain (form : PathForm) : Bool :=
  !form.qualified && !form.generic

namespace Ahead

/-- Generic arguments of a path segment. -/
def arguments (style : PathStyle) : Ahead := fun trees =>
  operator "::" trees && third (operator "<") trees ||
    style == .type && operator "<" trees && !anyOperator ["<=", "<<="] trees

def constantArgument : Ahead := either constant (group .brace)

/-- Colons before another segment, and not before the arguments of a call. -/
def moreSegments : Ahead := fun trees => operator "::" trees && !third (group .paren) trees

/-- What starts a path, other than a name. -/
def pathMark : Ahead := fun trees =>
  anyOperator ["::", "<"] trees || anyWord ["self", "Self", "super", "crate"] trees

end Ahead

namespace Grammar

open Scanner

variable (g : Grammar)

/-- A constant, a name or a block among generic arguments. -/
def scanConstant : Scanner Unit := do
  if ← sees .constant then constant
  else if !(← take? .name) then g.scanBody

/-- Bounds with plus signs between them up to where `stop` holds. -/
def scanBoundsUntil (stop : Ahead) (bound : Scanner Unit) : Scanner Unit :=
  repeated do
    if ← sees stop then return false
    bound
    operator? "+"

/-- A generic argument; tells whether it is a lifetime. -/
def scanArgument : Scanner Bool := do
  if ← sees (.alone .label (.operator "+")) then do
    label
    return true
  if ← sees .constantArgument then g.scanConstant
  else if (← g.type true) = .name then do
    if ← operator? "=" then do
      if ← sees .constantArgument then g.scanConstant
      else do
        let _ ← g.type true
    else if ← operator? ":" then
      scanBoundsUntil (.anyOperator [",", ">"]) do
        let _ ← g.bound false true
  return false

/-- Generic arguments in angle brackets, the lifetimes first. -/
def scanArguments : Scanner Unit := do
  let _ ← operator? "::"
  operator "<"
  arranged (.operator ">") g.scanArgument
  operator ">"

/-- A name of a path; tells whether it has arguments. -/
def scanSegment (style : PathStyle) : Scanner Bool := do
  if ← take? (.anyWord ["super", "self", "crate", "try"]) then return false
  if !(← word? "Self") then name
  if ← sees (.arguments style) then do
    g.scanArguments
    return true
  else return false

def scanSegments (style : PathStyle) (more : Ahead) (start : PathForm) : Scanner PathForm :=
  iterate (fun form => do
    if ← sees more then do
      operator "::"
      let generic ← g.scanSegment style
      return some { form with
        segments := form.segments + 1
        generic := form.generic || generic }
    else return none) start

/-- A path without a type at its start. -/
def scanPath (style : PathStyle) : Scanner PathForm := do
  let rooted ← operator? "::"
  let generic ← g.scanSegment style
  g.scanSegments style .moreSegments { rooted, segments := 1, generic }

def scanQualifiedPath (style : PathStyle) : Scanner PathForm := do
  if ← operator? "<" then do
    let _ ← g.type true
    if ← word? "as" then do
      let _ ← g.scanPath .type
    operator ">"
    operator "::"
    let generic ← g.scanSegment style
    g.scanSegments style (.operator "::") { qualified := true, segments := 1, generic }
  else g.scanPath style

end Grammar

end TemplateTree.Literal
