import TemplateTree.Json.Position

/-! Why a JSON text is refused, and where. -/

namespace TemplateTree.Json

inductive Reason where
  | endOfValue
  | endOfObject
  | endOfList
  | endOfString
  | expectedValue
  | expectedIdent
  | expectedColon
  | expectedMember
  | expectedElement
  | keyNotString
  | trailingComma
  | trailingCharacters
  | tooDeep
  | invalidNumber
  | numberOutOfRange
  | invalidEscape
  | controlCharacter
  | loneSurrogate
  | unfinishedSurrogate
  /-- A list was due and something else stands there. -/
  | notAList (found : String)
  /-- The text is well formed, but the value means nothing to its reader. -/
  | refused (why : String)
deriving DecidableEq, Repr

def Reason.message : Reason → String
  | endOfValue => "EOF while parsing a value"
  | endOfObject => "EOF while parsing an object"
  | endOfList => "EOF while parsing a list"
  | endOfString => "EOF while parsing a string"
  | expectedValue => "expected value"
  | expectedIdent => "expected ident"
  | expectedColon => "expected `:`"
  | expectedMember => "expected `,` or `\x7d`"
  | expectedElement => "expected `,` or `]`"
  | keyNotString => "key must be a string"
  | trailingComma => "trailing comma"
  | trailingCharacters => "trailing characters"
  | tooDeep => "recursion limit exceeded"
  | invalidNumber => "invalid number"
  | numberOutOfRange => "number out of range"
  | invalidEscape => "invalid escape"
  | controlCharacter => "control character (\\u0000-\\u001F) found while parsing a string"
  | loneSurrogate => "lone leading surrogate in hex escape"
  | unfinishedSurrogate => "unexpected end of hex escape"
  | notAList found => "invalid type: " ++ found ++ ", expected a sequence"
  | refused why => why

/-- A fault while reading: how many bytes of the text lie behind its place. -/
structure Fault where
  reason : Reason
  remaining : Nat
deriving DecidableEq, Repr

/-- A refusal of a whole text; some have no place in it. -/
structure Error where
  reason : Reason
  position : Option Position
deriving DecidableEq, Repr

def Error.message (error : Error) : String :=
  match error.position with
  | none => error.reason.message
  | some position => error.reason.message ++ position.text

/-- A refusal in words of its own. A place at their end is the place of the refusal; line
zero names no place, and a refusal that names none is at `otherwise`. -/
def Error.refusal (words : String) (otherwise : Option Position) : Error :=
  match Position.split? words.toList with
  | none => ⟨.refused words, otherwise⟩
  | some (words, position) =>
    ⟨.refused (String.ofList words), if position.line = 0 then otherwise else some position⟩

def Fault.locate (text : String) (fault : Fault) : Error :=
  let start : Position := ⟨1, 0⟩
  let position := start.advance (text.utf8ByteSize - fault.remaining) text.toList
  match fault.reason with
  | .refused words => .refusal words (some position)
  | reason => ⟨reason, some position⟩

end TemplateTree.Json
