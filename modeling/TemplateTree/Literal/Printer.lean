import TemplateTree.Literal.Code

/-! Generated code as token trees and as text. -/

namespace TemplateTree.Literal

/-- A path from the root of all names. -/
def rootPath (names : List String) : List Tree :=
  names.flatMap fun name => Tree.operator [':', ':'] ++ [.word name]

/-- A name of the template library. -/
def libraryPath (names : List String) : List Tree :=
  rootPath ("json2dom" :: "template" :: names)

def call (function : List Tree) (arguments : List (List Tree)) : List Tree :=
  function ++ [.group .paren ([Tree.mark ',' false].intercalate arguments)]

def listTrees (items : List (List Tree)) : List Tree :=
  rootPath ["std", "vec"] ++
    [.mark '!' false, .group .bracket ([Tree.mark ',' false].intercalate items)]

def method (name : String) (arguments : List (List Tree)) : List Tree :=
  .mark '.' false :: call [.word name] arguments

def stringTrees (text : StringConstant) : List Tree :=
  [.constant (.string text)]

/-- A number with a type of its own; a sign is a token of its own. -/
def numberTrees (value : NumberConstant) : List Tree :=
  let suffix := if value.float then "f64" else "i64"
  let typed : NumberConstant :=
    if value.suffix.isEmpty then { value with suffix, source := value.digits ++ suffix }
    else value
  (if value.negative then [.mark '-' false] else []) ++ [.constant (.number typed)]

def AttrCode.trees : AttrCode → List Tree
  | string text => stringTrees text
  | number value => numberTrees value
  | bool value => [.word (toString value)]
  | null => libraryPath ["AttrValue", "Null"]
  | expression value => value.trees

def TextCode.trees : TextCode → List Tree
  | string text => stringTrees text
  | expression value => value.trees

mutual

def TemplateCode.trees : TemplateCode → List Tree
  | .element selector content =>
    call (libraryPath ["Template", "element"]) [stringTrees selector, content.trees]
  | .node value => call (libraryPath ["Template", "node"]) [value.trees]

def ContentCode.trees : ContentCode → List Tree
  | .text text => call (libraryPath ["Value", "text"]) [stringTrees text]
  | .bag calls =>
    call (libraryPath ["Value", "Attributes"])
      [call (libraryPath ["Attributes", "new"]) [] ++ BagCode.treesAll calls]
  | .items templates =>
    call (libraryPath ["Value", "List"]) [listTrees (TemplateCode.treesAll templates)]
  | .node value => call (libraryPath ["Value", "node"]) [value.trees]

def BagCode.trees : BagCode → List Tree
  | .attr name value => method "attr" [stringTrees name, value.trees]
  | .html text => method "html" [text.trees]
  | .style css => method "style" [css.trees]
  | .child selector content =>
    method "child"
      [call (libraryPath ["Template", "element"]) [stringTrees selector, content.trees]]
  | .children templates => method "children" [listTrees (TemplateCode.treesAll templates)]

def BagCode.treesAll : List BagCode → List Tree
  | [] => []
  | code :: rest => code.trees ++ BagCode.treesAll rest

def TemplateCode.treesAll : List TemplateCode → List (List Tree)
  | [] => []
  | code :: rest => code.trees :: TemplateCode.treesAll rest

end

def TemplateCode.print (code : TemplateCode) : String :=
  Tree.printAll code.trees

end TemplateTree.Literal
