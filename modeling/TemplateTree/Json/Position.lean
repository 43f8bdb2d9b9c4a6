import TemplateTree.Number.Double

/-! Places in a text. A message may end in the place that it speaks of. -/

namespace TemplateTree.Json

/-- A place in a text; lines count from one and columns from zero, in bytes. -/
structure Position where
  line : Nat
  column : Nat
deriving DecidableEq, Repr

namespace Position

/-- Moves over `bytes` bytes of a text. A place may lie inside a character. -/
def advance (position : Position) (bytes : Nat) : List Char → Position
  | [] => { position with column := position.column + bytes }
  | c :: cs =>
    if bytes < c.utf8Size then { position with column := position.column + bytes }
    else
      let next : Position :=
        if c = '\n' then ⟨position.line + 1, 0⟩
        else { position with column := position.column + c.utf8Size }
      next.advance (bytes - c.utf8Size) cs

def lineMark : String := " at line "

def columnMark : String := " column "

/-- A place as it stands at the end of a message. -/
def text (position : Position) : String :=
  lineMark ++ toString position.line ++ columnMark ++ toString position.column

/-- The 64-bit number behind a mark, and what follows it. -/
def numberAfter? (mark : String) (cs : List Char) : Option (Nat × List Char) := do
  let cs ← mark.toList.isPrefixOf? cs
  let ds := cs.takeWhile Char.isDigit
  let n := ds.foldl (fun n d => 10 * n + (d.toNat - '0'.toNat)) 0
  if ds.isEmpty ∨ twoTo 64 ≤ n then none else some (n, cs.dropWhile Char.isDigit)

/-- Reads a place and nothing else. -/
def ofText? (cs : List Char) : Option Position := do
  let (line, cs) ← numberAfter? lineMark cs
  let (column, cs) ← numberAfter? columnMark cs
  if cs.isEmpty then some ⟨line, column⟩ else none

/-- Cuts a message that ends in a place before the place. -/
def split? : List Char → Option (List Char × Position)
  | [] => none
  | c :: cs =>
    match split? cs with
    | some (message, position) => some (c :: message, position)
    | none => (ofText? (c :: cs)).map fun position => ([], position)

end Position

end TemplateTree.Json
