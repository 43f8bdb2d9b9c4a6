import TemplateTree.Template.OfJson
import TemplateTree.Text.Quoted

/-! Templates decoded straight from text. A list is decoded item by item, so that an item
that is no template is reported before a fault further on. -/

namespace TemplateTree

variable {ν : Type}

namespace Template

open Json

/-- Decodes one template. A value that is no template is reported before what follows it,
and has no place of its own. -/
def decode (text : String) : Except Json.Error (Template ν) :=
  match Reader.value nestingLimit text.toList with
  | .error fault => .error (fault.locate text)
  | .ok (value, rest) =>
    match ofJson value with
    | .error fault => .error (.refusal fault.message none)
    | .ok template =>
      match Reader.finish rest with
      | .ok _ => .ok template
      | .error fault => .error (fault.locate text)

/-- Moves over what may close a list or go on with it. -/
def skipBreak : Reader Unit := do
  Reader.skipBlank
  match ← Reader.peek with
  | some ']' => Reader.advance
  | some ',' => do Reader.advance; Reader.skipBlank
  | _ => pure ()

/-- One item of a list whose items nest at most `depth` deep. -/
def item (depth : Nat) : Reader (Template ν) := do
  match ofJson (← Reader.value depth) with
  | .ok template => return template
  | .error fault => do skipBreak; Reader.failAfter (.refused fault.message)

/-- How a value is named where a list was due. -/
def describe : Json → String
  | .null => "null"
  | .bool value => "boolean `" ++ toString value ++ "`"
  | .number (.integer value) => "integer `" ++ toString value ++ "`"
  | .number (.float value) => "floating point `" ++ value.display ++ "`"
  | .string value => "string " ++ Text.quoted value
  | .array _ => "sequence"
  | .object _ => "map"

def list : Reader (List (Template ν)) := do
  Reader.skipBlank
  match ← Reader.peek with
  | some '[' => do Reader.advance; Reader.list (item (nestingLimit - 1))
  | some '\x7b' => Reader.failAfter (.notAList (describe (.object [])))
  | _ => do
    let value ← Reader.value nestingLimit
    Reader.failAfter (.notAList (describe value))

def decodeList (text : String) : Except Json.Error (List (Template ν)) :=
  Reader.runOn (do
    let templates ← list
    Reader.finish
    return templates) text

end Template

end TemplateTree
