/-! Selector tokens: the markers `.` and `#`, names, and runs of anything else.
A token is as long as its kind allows, so the tokens of a text cover it without gaps. -/

namespace TemplateTree.Selector

def isMarker (c : Char) : Bool :=
  c == '.' || c == '#'

/-- Names are ASCII: a letter, digit or underscore starts one. -/
def isNameStart (c : Char) : Bool :=
  c.isAlphanum || c == '_'

def isNameChar (c : Char) : Bool :=
  isNameStart c || c == '-'

/-- Whether a text is written with a marker, as `div.x` and `#main` are. -/
def hasMarker (text : String) : Bool :=
  text.toList.any isMarker

inductive TokenKind where
  | dot
  | hash
  | name
  | junk
deriving DecidableEq, Repr

namespace TokenKind

def isMarker : TokenKind → Bool
  | dot | hash => true
  | name | junk => false

/-- The first character decides the kind of a token. -/
def ofChar (c : Char) : TokenKind :=
  if c = '.' then dot
  else if c = '#' then hash
  else if isNameStart c then name
  else junk

/-- The characters that extend a token of this kind. -/
def continues : TokenKind → Char → Bool
  | dot, _ | hash, _ => false
  | name, c => isNameChar c
  | junk, c => !Selector.isMarker c && !isNameStart c

end TokenKind

/-- A token knows the byte at which it starts. -/
structure Token where
  kind : TokenKind
  start : Nat
  text : String
deriving DecidableEq, Repr

namespace Token

def stop (token : Token) : Nat :=
  token.start + token.text.utf8ByteSize

def isMarker (token : Token) : Bool :=
  token.kind.isMarker

end Token

/-- The tokens of a text that begins at byte `start`. -/
def tokensFrom (start : Nat) : List Char → List Token
  | [] => []
  | c :: cs =>
    let kind := TokenKind.ofChar c
    let token : Token := ⟨kind, start, String.ofList (c :: cs.takeWhile kind.continues)⟩
    token :: tokensFrom token.stop (cs.dropWhile kind.continues)
termination_by cs => cs.length
decreasing_by exact Nat.lt_succ_of_le (List.dropWhile_sublist _).length_le

def tokens (text : String) : List Token :=
  tokensFrom 0 text.toList

end TemplateTree.Selector
