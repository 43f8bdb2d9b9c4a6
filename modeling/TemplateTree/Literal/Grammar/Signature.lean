import TemplateTree.Literal.Grammar.Pattern
import TemplateTree.Literal.Grammar.Type

/-! Functions without their bodies, and the visibility and the fields of items. -/

namespace TemplateTree.Literal

namespace Ahead

/-- The trees behind a word, if it stands in front. -/
def past (text : String) (trees : List Tree) : List Tree :=
  if word text trees then trees.drop 1 else trees

/-- The words of a function up to `fn`. -/
def signature (safe : Bool) : Ahead := fun trees =>
  let trees := past "async" (past "const" trees)
  let trees := if safe && word "safe" trees then trees.drop 1 else past "unsafe" trees
  word "fn" <| match trees with
    | .word "extern" :: .constant (.string _) :: rest => rest
    | .word "extern" :: rest => rest
    | _ => trees

/-- The argument that is the object itself. -/
def receiver : Ahead := fun trees =>
  let trees := match trees with
    | .mark '&' _ :: rest => if label rest then rest.drop 2 else rest
    | _ => trees
  let trees := past "mut" trees
  word "self" trees && !second (operator "::") trees

/-- One word in parentheses that restricts who sees an item. -/
def scope : Ahead
  | .group .paren [.word text] :: _ => ["crate", "self", "super"].contains text
  | _ => false

def scopePath : Ahead
  | .group .paren (.word "in" :: _) :: _ => true
  | _ => false

end Ahead

namespace Grammar

open Scanner

variable (g : Grammar)

/-- Who sees an item; tells whether that is written. -/
def scanVisibility : Scanner Bool := do
  if ← word? "pub" then do
    if ← sees .scope then take
    else if ← sees .scopePath then
      inside .paren do
        word "in"
        scanPlainPath
    return true
  else return false

/-- The last argument of a function with variable arguments, behind its points. -/
def scanVariadicEnd : Scanner Unit := do
  if !(← sees .nothing) then operator ","

/-- Arguments of a function. The object itself comes first, and a type alone gets a blank
pattern. -/
def scanFunctionArguments : Scanner Unit := do
  let _ ← iterate (fun first => do
    if ← sees .nothing then return none
    g.scanAttributes
    if ← operator? "..." then do
      scanVariadicEnd
      return none
    if ← sees .receiver then do
      if !first then failure
      let reference ← operator? "&"
      if reference then label?
      let _ ← word? "mut"
      word "self"
      if !reference then
        if ← operator? ":" then do
          let _ ← g.type true
    else if ← sees (.pair .name (.operator "<")) then do
      write [.word "_", .mark ':' false]
      let _ ← g.type true
    else do
      let _ ← g.pattern
      operator ":"
      if ← operator? "..." then do
        scanVariadicEnd
        return none
      let _ ← g.type true
    if !(← sees .nothing) then operator ","
    return some false) true

/-- A function up to its body; tells whether it is marked as safe. -/
def scanSignature (safe : Bool) : Scanner Bool := do
  let _ ← word? "const"
  let _ ← word? "async"
  let guarded ← word? "unsafe"
  let marked ← if safe && !guarded then word? "safe" else pure false
  scanInterface
  word "fn"
  name
  let _ ← g.scanParameters
  inside .paren g.scanFunctionArguments
  g.scanResult true
  let _ ← g.scanWhere
  return marked

/-- A named field. One without a name may hold fields of its own, which stay as they are. -/
def scanField : Scanner Unit := do
  g.scanAttributes
  let _ ← scanVisibility
  let anonymous ← word? "_"
  if !anonymous then name
  operator ":"
  let nested ← sees (.either (.word "struct") (.pair (.word "union") (.group .brace)))
  if anonymous && nested then do
    let start ← get
    take
    inside .brace g.fields
    keepSince start
  else do
    let _ ← g.type true

def scanFields : Scanner Unit :=
  items g.scanField

/-- The fields of a tuple. -/
def scanTupleFields : Scanner Unit :=
  items do
    g.scanAttributes
    let _ ← scanVisibility
    let _ ← g.type true

end Grammar

end TemplateTree.Literal
