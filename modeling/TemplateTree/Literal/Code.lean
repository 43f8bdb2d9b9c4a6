import TemplateTree.Literal.Reader
import TemplateTree.Template.OfJson

/-! The code that a template literal stands for: constructor calls that build the template,
with the embedded expressions in their places. Entries of a bag are told apart as in JSON, but
by keys and tests of its own. -/

namespace TemplateTree.Literal

/-- The value of an attribute in code. Numbers without a suffix get the suffix of a 64-bit
type. -/
inductive AttrCode where
  | string (text : StringConstant)
  | number (value : NumberConstant)
  | bool (value : Bool)
  | null
  | expression (value : Expression)

inductive TextCode where
  | string (text : StringConstant)
  | expression (value : Expression)

mutual

inductive TemplateCode where
  | element (selector : StringConstant) (content : ContentCode)
  | node (value : Expression)

inductive ContentCode where
  | text (text : StringConstant)
  | bag (calls : List BagCode)
  | items (templates : List TemplateCode)
  | node (value : Expression)

/-- One call on a bag. -/
inductive BagCode where
  | attr (name : StringConstant) (value : AttrCode)
  | html (text : TextCode)
  | style (css : TextCode)
  | child (selector : StringConstant) (content : ContentCode)
  | children (templates : List TemplateCode)

end

/-- A string constant for a text without quotes and backslashes. -/
def StringConstant.ofText (text : String) : StringConstant :=
  ⟨text, "\"" ++ text ++ "\""⟩

/-- The text that a scalar stands for; null stands for nothing. -/
def scalarText : Literal → StringConstant
  | .string text => text
  | .number value => .ofText value.text
  | .bool value => .ofText (toString value)
  | _ => .ofText ""

def attrCode : Literal → Except Fault AttrCode
  | .string text => .ok (.string text)
  | .number value =>
    if value.float && value.suffix.isEmpty && value.digits.toList.getLast? == some '.' then
      .error (.cannotSuffix value.text)
    else .ok (.number value)
  | .bool value => .ok (.bool value)
  | .expression value => .ok (.expression value)
  | .null | .object _ | .list _ => .ok .null

/-- Two ways to write a value that stands alone: as an attribute and as a text. -/
structure Leaves where
  attr : Literal → Except Fault AttrCode
  text : Literal → StringConstant

def Leaves.plain : Leaves where
  attr := attrCode
  text := scalarText

namespace Key

def children : String := "children"

def html : String := "html"

def style : String := "style"

/-- Whether a key is written like a selector. -/
def isSelector (key : String) : Bool :=
  key.toList.any fun c => c == '.' || c == '#'

end Key

/-- What an entry of a bag stands for. This has to stay in step with `EntryKind.of`. -/
def entryKind (key : String) (value : Literal) : EntryKind :=
  if key = Key.children then .children
  else if key = Key.html then .html
  else if key = Key.style then .style
  else if value.isContainer || Key.isSelector key then .child
  else .attr

section

variable (leaves : Leaves)

def textCodeWith (key : String) : Literal → Except Fault TextCode
  | .expression value => .ok (.expression value)
  | .object _ => .error (.notText key .object)
  | .list _ => .error (.notText key .list)
  | scalar => .ok (.string (leaves.text scalar))

mutual

/-- The code for a template when the values that stand alone are written in a given way. -/
def templateCodeWith : Literal → Except Fault TemplateCode
  | .object [] => .error .noSelector
  | .object [(selector, value)] => do return .element selector (← contentCodeWith value)
  | .object entries => .error (.manySelectors entries.length)
  | .expression value => .ok (.node value)
  | other => .error (.notATemplate other.kind)

def contentCodeWith : Literal → Except Fault ContentCode
  | .object entries => do return .bag (← bagCodeWith entries)
  | .list items => do return .items (← templateCodesWith items)
  | .expression value => .ok (.node value)
  | scalar => .ok (.text (leaves.text scalar))

def bagCodeWith : List (StringConstant × Literal) → Except Fault (List BagCode)
  | [] => .ok []
  | (key, value) :: rest => do
    let call ← match entryKind key.value value with
      | .children =>
        match value with
        | .list items => do pure (.children (← templateCodesWith items))
        | other => .error (.childrenNotAList other.kind)
      | .html => do pure (.html (← textCodeWith leaves Key.html value))
      | .style => do pure (.style (← textCodeWith leaves Key.style value))
      | .child => do pure (.child key (← contentCodeWith value))
      | .attr => do pure (.attr key (← leaves.attr value))
    return call :: (← bagCodeWith rest)

def templateCodesWith : List Literal → Except Fault (List TemplateCode)
  | [] => .ok []
  | item :: rest => do
    let template ← templateCodeWith item
    return template :: (← templateCodesWith rest)

end

end

def textCode : String → Literal → Except Fault TextCode :=
  textCodeWith .plain

def templateCode : Literal → Except Fault TemplateCode :=
  templateCodeWith .plain

def contentCode : Literal → Except Fault ContentCode :=
  contentCodeWith .plain

def bagCode : List (StringConstant × Literal) → Except Fault (List BagCode) :=
  bagCodeWith .plain

def templateCodes : List Literal → Except Fault (List TemplateCode) :=
  templateCodesWith .plain

/-- The code for a source text. -/
def expand (source : String) : Except Fault TemplateCode := do
  match Tree.scan source with
  | some [] => .error .missing
  | some trees => templateCode (← ofTrees trees)
  | none => .error .malformed

end TemplateTree.Literal
