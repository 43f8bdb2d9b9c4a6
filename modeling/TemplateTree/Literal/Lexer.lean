import TemplateTree.Literal.Quoted
import TemplateTree.Text.Blank
import TemplateTree.Text.Quoted

/-! Source text to token trees. Blanks and comments separate tokens; comments that document
what follows or encloses them become attributes. -/

namespace TemplateTree.Literal

open Text

/-- A tree, or a bracket whose partner is not known yet. -/
inductive Lexeme where
  | opening (delimiter : Delimiter)
  | closing (delimiter : Delimiter)
  | tree (tree : Tree)

namespace Lexeme

/-- Marks of writing direction separate tokens too. -/
def isBlank (c : Char) : Bool :=
  Text.isBlank c || c == '\u200e' || c == '\u200f'

def isMark (c : Char) : Bool :=
  "~!@#$%^&*-=+|;:,<.>/?'".toList.contains c

/-- Whether a mark stands at the front, and not a comment. -/
def startsMark : List Char → Bool
  | '/' :: '/' :: _ | '/' :: '*' :: _ => false
  | c :: _ => isMark c
  | [] => false

/-- The rest of a line without its break. A carriage return belongs to the break. -/
def restOfLine : List Char → List Char × List Char
  | [] => ([], [])
  | '\n' :: cs => ([], '\n' :: cs)
  | '\r' :: '\n' :: cs => ([], '\n' :: cs)
  | c :: cs =>
    let (line, rest) := restOfLine cs
    (c :: line, rest)

/-- The text of a comment from its opening on, and what follows it. Comments nest. -/
def comment (depth : Nat) : List Char → Option (List Char × List Char)
  | '/' :: '*' :: cs =>
    (comment (depth + 1) cs).map fun (text, rest) => ('/' :: '*' :: text, rest)
  | '*' :: '/' :: cs =>
    if depth = 1 then some (['*', '/'], cs)
    else (comment (depth - 1) cs).map fun (text, rest) => ('*' :: '/' :: text, rest)
  | c :: cs => (comment depth cs).map fun (text, rest) => (c :: text, rest)
  | [] => none

/-- Whether every carriage return comes before a line feed. -/
def hasNoBareReturn : List Char → Bool
  | '\r' :: '\n' :: cs => hasNoBareReturn cs
  | '\r' :: _ => false
  | _ :: cs => hasNoBareReturn cs
  | [] => true

/-- The attribute that a documentation comment stands for. -/
def documentation (inner : Bool) (text : List Char) : Option (List Lexeme) :=
  if ¬ hasNoBareReturn text then none
  else
    let text := String.ofList text
    let attr : Tree := .group .bracket
      [.word "doc", .mark '=' false, .constant (.string ⟨text, quotedSource text⟩)]
    let marks : List Tree := .mark '#' false :: (if inner then [.mark '!' false] else [])
    some ((marks ++ [attr]).map tree)

/-- A line comment behind its two slashes. -/
def lineComment (cs : List Char) : Option (List Lexeme × List Char) :=
  let document (inner : Bool) (cs : List Char) :=
    let (text, rest) := restOfLine cs
    (documentation inner text).map fun lexemes => (lexemes, rest)
  match cs with
  | '/' :: '/' :: _ => some ([], (restOfLine cs).2)
  | '/' :: cs => document false cs
  | '!' :: cs => document true cs
  | cs => some ([], (restOfLine cs).2)

/-- A block comment, from its opening on. -/
def blockComment (cs : List Char) : Option (List Lexeme × List Char) := do
  let (text, rest) ← comment 0 cs
  let inside := (text.drop 3).take (text.length - 5)
  match text with
  | ['/', '*', '*', '/'] => return ([], rest)
  | '/' :: '*' :: '*' :: '*' :: _ => return ([], rest)
  | '/' :: '*' :: '*' :: _ => return (← documentation false inside, rest)
  | '/' :: '*' :: '!' :: _ => return (← documentation true inside, rest)
  | _ => return ([], rest)

/-- The words that a word without a raw mark cannot follow: openings of quoted constants. -/
def quoteMarks : List String :=
  ["r\"", "r#\"", "r##", "b\"", "b'", "br\"", "br#", "c\"", "cr\"", "cr#"]

/-- Words that have no raw form. -/
def neverRaw : List String :=
  ["_", "super", "self", "Self", "crate"]

/-- A word without a raw mark. -/
def plainWord (cs : List Char) : Option (String × List Char) :=
  if cs.head?.any startsIdentifier then
    some (String.ofList (cs.takeWhile continuesIdentifier), cs.dropWhile continuesIdentifier)
  else none

def anyWord (cs : List Char) : Option (String × List Char) :=
  match cs with
  | 'r' :: '#' :: rest => do
    let (text, rest) ← plainWord rest
    if neverRaw.contains text then none else some ("r#" ++ text, rest)
  | _ => plainWord cs

def word (cs : List Char) : Option (List Lexeme × List Char) :=
  if quoteMarks.any fun mark => mark.toList.isPrefixOf cs then none
  else (anyWord cs).map fun (text, rest) => ([tree (.word text)], rest)

/-- A mark. It is joint when another mark follows directly; an apostrophe is joint with the
name of the label it opens. -/
def mark (cs : List Char) : Option (List Lexeme × List Char) :=
  match cs with
  | '\'' :: rest => do
    let (_, after) ← anyWord rest
    let raw := ['r', '#'].isPrefixOf rest
    if after.head? = some '\'' ∨ after.head? = some '#' ∧ ¬ raw then none
    else some ([tree (.mark '\'' true)], rest)
  | c :: rest => if startsMark cs then some ([tree (.mark c (startsMark rest))], rest) else none
  | [] => none

/-- A constant that stands for what could not be read. -/
def errorMark : String :=
  "(/*ERROR*/)"

/-- What stands at the front of a text, and what follows it. -/
def front (cs : List Char) : Option (List Lexeme × List Char) :=
  match cs with
  | '/' :: '/' :: rest => lineComment rest
  | '/' :: '*' :: _ => blockComment cs
  | '(' :: rest =>
    match errorMark.toList.isPrefixOf? cs with
    | some rest => some ([tree (.constant (.other errorMark))], rest)
    | none => some ([opening .paren], rest)
  | '[' :: rest => some ([opening .bracket], rest)
  | '\x7b' :: rest => some ([opening .brace], rest)
  | ')' :: rest => some ([closing .paren], rest)
  | ']' :: rest => some ([closing .bracket], rest)
  | '\x7d' :: rest => some ([closing .brace], rest)
  | _ =>
    match constantFront cs with
    | some (value, rest) => some ([tree (.constant value)], rest)
    | none => mark cs <|> word cs

/-- The lexemes of a text in at most `count` steps. Every step takes a character. -/
def scanUpTo : Nat → List Char → Option (List Lexeme)
  | _, [] => some []
  | 0, _ => none
  | count + 1, c :: cs =>
    if isBlank c then scanUpTo count cs
    else do
      let (lexemes, rest) ← front (c :: cs)
      return lexemes ++ (← scanUpTo count rest)

/-- Closes every bracket by its partner; `outer` holds the brackets that are open, each with
what stands before it, latest first. -/
def nest (outer : List (Delimiter × List Tree)) (done : List Tree) :
    List Lexeme → Option (List Tree)
  | [] => if outer.isEmpty then some done.reverse else none
  | .tree t :: rest => nest outer (t :: done) rest
  | .opening delimiter :: rest => nest ((delimiter, done) :: outer) [] rest
  | .closing delimiter :: rest =>
    match outer with
    | (opened, before) :: outer =>
      if opened = delimiter then nest outer (.group delimiter done.reverse :: before) rest
      else none
    | [] => none

end Lexeme

/-- The trees of a source text, if it has any. A byte order mark at its front is skipped. -/
def Tree.scan (source : String) : Option (List Tree) := do
  let cs := match source.toList with
    | '\ufeff' :: rest => rest
    | cs => cs
  Lexeme.nest [] [] (← Lexeme.scanUpTo cs.length cs)

end TemplateTree.Literal
