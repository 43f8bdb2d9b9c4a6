import TemplateTree.Literal.Grammar.Bound

/-! Types. -/

namespace TemplateTree.Literal

namespace Ahead

/-- The variable arguments that end a function type, maybe under a name. -/
def variadic : Ahead := fun trees =>
  operator "..." trees ||
    (name trees || word "_" trees) && second (operator ":") trees && third (operator "...") trees

/-- The name of an argument in a function type. -/
def argumentName (first : Bool) : Ahead := fun trees =>
  (name trees || word "_" trees || first && word "self" trees) &&
    second (operator ":") trees && !second (operator "::") trees

def mutableSelf : Ahead := pair (word "mut") (word "self")

def functionType : Ahead := anyWord ["fn", "unsafe", "extern"]

end Ahead

namespace Grammar

open Scanner

variable (g : Grammar)

/-- The binary interface of a function. -/
def scanInterface : Scanner Unit := do
  if ← word? "extern" then
    if let .constant (.string _) :: _ := (← get).rest then take

/-- An argument in a function type. One that is the object itself stays as it is. -/
def scanTypeArgument (first : Bool) : Scanner Unit := do
  g.scanAttributes
  let start ← get
  let mutable := first && Ahead.mutableSelf start.rest
  if mutable then take
  let self := Ahead.word "self" (← get).rest
  let named ← sees (.argumentName first)
  if named then do
    take
    operator ":"
  if first && !(named && self) && (← sees .mutableSelf) then do
    take
    take
    keepSince start
  else if mutable && !named then do
    word "self"
    keepSince start
  else do
    let _ ← g.type true
    if mutable then keepSince start

/-- A function type behind what it binds. -/
def scanFunctionType : Scanner Unit := do
  let _ ← word? "unsafe"
  scanInterface
  word "fn"
  let _ ← inside .paren <| iterate (fun first => do
    if ← sees .nothing then return none
    g.scanAttributes
    if ← sees .variadic then do
      if !(← operator? "...") then do
        take
        operator ":"
        operator "..."
      let _ ← operator? ","
      return none
    g.scanTypeArgument first
    if !(← sees .nothing) then operator ","
    return some false) true
  g.scanResult false

/-- Bounds of which one is a trait. -/
def scanObject (plus captures conditional : Bool) : Scanner Unit := do
  if !(← g.scanBounds plus captures conditional) then failure

/-- A path as a type, a macro call, or the first of several bounds; `binder` stands before
it. -/
def scanPathType (plus : Bool) (binder : List Tree) : Scanner TypeForm := do
  let (form, path) ← capture (g.scanQualifiedPath .type)
  if form.isPlain && (← sees .callMark) then do
    write path
    let _ ← scanCall
    return .other
  write (binder ++ path)
  if form.qualified then return .other
  if plus && (← sees (.operator "+")) then do
    repeated do
      if ← operator? "+" then
        if ← sees (.bound false) then do
          let _ ← g.bound false false
          return true
      return false
    return .other
  if !binder.isEmpty then return .bound
  return if form.segments = 1 && !form.rooted then .name else .path

/-- Leaves out parentheses that hold nothing but other parentheses. -/
def unnest : List Tree → List Tree
  | .group .paren [.group .paren trees] :: written => .group .paren trees :: written
  | written => written

/-- A type in parentheses, a tuple, or the first of several bounds. -/
def scanParenType (plus : Bool) : Scanner TypeForm := do
  let (relaxed, first) ← inside .paren do
    if ← sees .nothing then return (false, .other)
    if ← sees .label then do
      g.scanObject true false false
      return (false, .other)
    if ← sees (.operator "?") then do
      let _ ← g.scanTrait false
      return (true, .bound)
    let first ← g.type true
    if ← operator? "," then do
      items do
        let _ ← g.type true
      return (false, .other)
    return (false, first)
  if relaxed || plus && first ≠ .other then
    if ← sees (.operator "+") then do
      if first = .enclosedBound then modify fun s => { s with written := unnest s.written }
      repeated do
        if ← operator? "+" then do
          let _ ← g.bound false false
          return true
        else return false
      return .other
  return if relaxed then .enclosedBound else .other

def scanType (plus : Bool) : Scanner TypeForm := do
  let start ← get
  if ← sees (.word "for") then do
    let (_, binder) ← capture g.scanBinder
    if ← sees .functionType then do
      write binder
      g.scanFunctionType
      return .other
    else if ← sees .moduleName then g.scanPathType plus binder
    else failure
  else if ← sees (.group .paren) then g.scanParenType plus
  else if ← sees (.either .name .pathMark) then g.scanPathType plus []
  else do
    if ← sees .functionType then g.scanFunctionType
    else if ← word? "dyn" then do
      let star ← operator? "*"
      g.scanObject plus false false
      if star then keepSince start
    else if ← sees (.group .bracket) then
      inside .bracket do
        let _ ← g.type true
        if ← operator? ";" then g.expression true
    else if ← operator? "*" then do
      if !(← word? "const") then word "mut"
      let _ ← g.type false
    else if ← operator? "&" then do
      label?
      let _ ← word? "mut"
      let _ ← g.type false
    else if ← word? "impl" then g.scanObject plus true true
    else if ← sees .label then g.scanObject true false false
    else if !(← operator? "!") then word "_"
    return .other

end Grammar

end TemplateTree.Literal
