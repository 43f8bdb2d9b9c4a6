import TemplateTree.Literal.Tree

/-! Scanning token trees. A scanner moves trees from the front of its input to what it has
written, where every operator is spaced anew: its marks are joined to each other and to
nothing else. -/

namespace TemplateTree.Literal

/-- Words that name nothing. -/
def reservedWords : List String :=
  ["_", "abstract", "as", "async", "await", "become", "box", "break", "const", "continue",
    "crate", "do", "dyn", "else", "enum", "extern", "false", "final", "fn", "for", "if", "impl",
    "in", "let", "loop", "macro", "match", "mod", "move", "mut", "override", "priv", "pub",
    "ref", "return", "Self", "self", "static", "struct", "super", "trait", "true", "try",
    "type", "typeof", "unsafe", "unsized", "use", "virtual", "where", "while", "yield"]

def isName (text : String) : Bool :=
  !reservedWords.contains text

/-- A question about the trees in front. -/
abbrev Ahead := List Tree → Bool

namespace Ahead

/-- There are no trees left. -/
def nothing : Ahead := List.isEmpty

/-- All marks but the last have to be joint. -/
def marks : List Char → Ahead
  | [], _ => true
  | c :: cs, .mark d joint :: rest => c == d && (cs.isEmpty || joint) && marks cs rest
  | _, _ => false

def operator (text : String) : Ahead := marks text.toList

def anyOperator (texts : List String) : Ahead :=
  fun trees => texts.any fun text => operator text trees

def word (text : String) : Ahead
  | .word found :: _ => found == text
  | _ => false

def anyWord (texts : List String) : Ahead
  | .word found :: _ => texts.contains found
  | _ => false

/-- Any word, also one that names nothing. -/
def someWord : Ahead
  | .word _ :: _ => true
  | _ => false

def name : Ahead
  | .word text :: _ => isName text
  | _ => false

def group (delimiter : Delimiter) : Ahead
  | .group found _ :: _ => found == delimiter
  | _ => false

def someGroup : Ahead
  | .group _ _ :: _ => true
  | _ => false

/-- An apostrophe with its name. -/
def label : Ahead
  | .mark '\'' _ :: .word _ :: _ => true
  | _ => false

/-- A constant, also a truth value or a number with a minus sign. -/
def constant : Ahead
  | .constant _ :: _ => true
  | .word text :: _ => text == "true" || text == "false"
  | .mark '-' _ :: .constant (.number _) :: _ => true
  | _ => false

/-- The trees behind the first; a label counts as one tree. -/
def behind : List Tree → List Tree
  | .mark '\'' _ :: .word _ :: rest => rest
  | _ :: rest => rest
  | [] => []

def second (test : Ahead) : Ahead := fun trees => test (behind trees)

def third (test : Ahead) : Ahead := second (second test)

/-- A first tree with a second one behind it. -/
def pair (test next : Ahead) : Ahead := fun trees => test trees && second next trees

/-- A first tree without such a second one behind it. -/
def alone (test next : Ahead) : Ahead := fun trees => test trees && !second next trees

def either (test other : Ahead) : Ahead := fun trees => test trees || other trees

/-- A point that is no part of a range. -/
def point : Ahead := fun trees => operator "." trees && !operator ".." trees

end Ahead

structure Scan where
  rest : List Tree
  /-- Latest first. -/
  written : List Tree := []
  /-- Whether every group has been read to its end. -/
  complete : Bool := true

abbrev Scanner := StateT Scan Option

namespace Scanner

variable {α : Type}

def sees (test : Ahead) : Scanner Bool :=
  return test (← get).rest

/-- Whether a test holds behind what a scanner would take. -/
def seesBehind (part : Scanner Unit) (test : Ahead) : Scanner Bool := do
  match part.run (← get) with
  | some (_, s) => return test s.rest
  | none => return false

/-! ### Moving trees -/

def write (trees : List Tree) : Scanner Unit :=
  modify fun s => { s with written := trees.reverse ++ s.written }

def skip (count : Nat) : Scanner Unit :=
  modify fun s => { s with rest := s.rest.drop count }

/-- Moves one tree as it is. -/
def take : Scanner Unit := do
  match (← get).rest with
  | tree :: rest => modify fun s => { s with rest, written := tree :: s.written }
  | [] => failure

/-- Moves one tree that passes a test. -/
def takeIf (test : Ahead) : Scanner Unit := do
  if ← sees test then take else failure

/-- Moves one tree if it passes a test; tells whether it does. -/
def take? (test : Ahead) : Scanner Bool := do
  if ← sees test then do take; return true else return false

def operator (text : String) : Scanner Unit := do
  if ← sees (.operator text) then do
    skip text.length
    write (Tree.operator text.toList)
  else failure

def operator? (text : String) : Scanner Bool := do
  if ← sees (.operator text) then do operator text; return true else return false

def word (text : String) : Scanner Unit :=
  takeIf (.word text)

def word? (text : String) : Scanner Bool :=
  take? (.word text)

def name : Scanner Unit :=
  takeIf .name

/-- Moves an apostrophe with its name. -/
def label : Scanner Unit := do
  if ← sees .label then do take; take else failure

def label? : Scanner Unit := do
  if ← sees .label then label

def constant : Scanner Unit := do
  if ← sees .constant then do
    let _ ← operator? "-"
    take
  else failure

/-! ### Combining scanners -/

/-- Scans the content of a group. Trees that are left in it are lost. -/
def inside (delimiter : Delimiter) (content : Scanner α) : Scanner α := do
  let outer ← get
  match outer.rest with
  | .group found trees :: rest =>
    if found = delimiter then do
      set { outer with rest := trees, written := [] }
      let value ← content
      let inner ← get
      set ({
        rest
        written := .group delimiter inner.written.reverse :: outer.written
        complete := inner.complete && inner.rest.isEmpty } : Scan)
      return value
    else failure
  | _ => failure

/-- What a scanner would write, with its value. -/
def capture (part : Scanner α) : Scanner (α × List Tree) := do
  let outer := (← get).written
  modify fun s => { s with written := [] }
  let value ← part
  let own := (← get).written.reverse
  modify fun s => { s with written := outer }
  return (value, own)

/-- Writes what has been taken since `start` as it was. -/
def keepSince (start : Scan) : Scanner Unit :=
  modify fun s =>
    let taken := start.rest.take (start.rest.length - s.rest.length)
    { s with written := taken.reverse ++ start.written }

/-- Puts what has been written since `start` in parentheses. -/
def encloseSince (start : Scan) : Scanner Unit :=
  modify fun s =>
    let own := s.written.take (s.written.length - start.written.length)
    { s with written := .group .paren own.reverse :: start.written }

def iterateUpTo (step : α → Scanner (Option α)) : Nat → α → Scanner α
  | 0, _ => failure
  | count + 1, value => do
    match ← step value with
    | some value => iterateUpTo step count value
    | none => return value

/-- Steps until there is no next value. Every step but the last takes a tree, so the trees
bound the number of steps. -/
def iterate (step : α → Scanner (Option α)) (start : α) : Scanner α := do
  iterateUpTo step ((← get).rest.length + 1) start

/-- Repeats a step until it tells to stop. -/
def repeated (step : Scanner Bool) : Scanner Unit :=
  iterate (fun _ => do if ← step then return some () else return none) ()

/-- Items up to where `stop` holds, with separators between them and maybe one behind. -/
def listed (stop : Ahead) (separator : String) (item : Scanner Unit) : Scanner Unit :=
  repeated do
    if ← sees stop then return false
    item
    if !(← sees stop) then operator separator
    return true

/-- All items of a group, with commas. -/
def items (item : Scanner Unit) : Scanner Unit :=
  listed .nothing "," item

/-- Writes a head with what it introduces, and nothing if that is nothing. -/
def unlessEmpty (head content : Scanner Unit) : Scanner Unit := do
  let (_, first) ← capture head
  let (_, rest) ← capture content
  if !rest.isEmpty then write (first ++ rest)

/-- An item of a list, with the comma behind it, if there is one. -/
structure Part where
  /-- Whether the item stands before those that do not lead. -/
  leads : Bool
  trees : List Tree
  comma : Bool

def Part.pieces (part : Part) : List Tree :=
  part.trees ++ (if part.comma then [.mark ',' false] else [])

/-- The items that lead, and then all others. A comma is added where it lacks. -/
def arrange (parts : List Part) : List Tree :=
  let leading := parts.filter (·.leads)
  let others := parts.filter (!·.leads)
  let gap := !others.isEmpty && leading.getLast?.any (!·.comma)
  leading.flatMap Part.pieces ++ (if gap then [.mark ',' false] else []) ++
    others.flatMap Part.pieces

/-- A list with commas up to where `stop` holds, arranged by which items lead. -/
def arranged (stop : Ahead) (item : Scanner Bool) : Scanner Unit := do
  let parts ← iterate (fun parts => do
    if ← sees stop then return none
    let (leads, trees) ← capture item
    let comma := !(← sees stop)
    if comma then do
      let _ ← capture (operator ",")
    return some (parts ++ [⟨leads, trees, comma⟩])) []
  write (arrange parts)

end Scanner

end TemplateTree.Literal
