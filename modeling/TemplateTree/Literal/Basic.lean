import TemplateTree.Literal.Expression
import TemplateTree.Text.Quoted

/-! Template literals: templates written in source code. Their values are constants, objects
with string keys, lists, and embedded expressions. -/

namespace TemplateTree

open Literal in
inductive Literal where
  | string (text : StringConstant)
  | number (value : NumberConstant)
  | bool (value : Bool)
  | null
  | object (entries : List (StringConstant × Literal))
  | list (items : List Literal)
  | expression (value : Expression)

namespace Literal

inductive Kind where
  | string
  | number
  | boolean
  | null
  | object
  | list
  | expression
deriving DecidableEq, Repr

def Kind.phrase : Kind → String
  | string => "a string"
  | number => "a number"
  | boolean => "a boolean"
  | null => "null"
  | object => "an object"
  | list => "a list"
  | expression => "an expression"

def kind : Literal → Kind
  | string _ => .string
  | number _ => .number
  | bool _ => .boolean
  | null => .null
  | object _ => .object
  | list _ => .list
  | expression _ => .expression

def isContainer : Literal → Bool
  | object _ | list _ => true
  | _ => false

mutual

/-- A literal as it is shown for inspection. -/
def describe : Literal → String
  | string text => "Str(" ++ Text.quoted text.value ++ ")"
  | number value => (if value.float then "Float(" else "Int(") ++ value.text ++ ")"
  | bool value => "Bool(" ++ toString value ++ ")"
  | null => "Null"
  | object entries => "[" ++ ", ".intercalate (describeEntries entries) ++ "]"
  | list items => "[" ++ ", ".intercalate (describeItems items) ++ "]"
  | expression _ => "Expr"

def describeEntries : List (StringConstant × Literal) → List String
  | [] => []
  | (key, value) :: rest =>
    ("Entry \x7b key: " ++ Text.quoted key.value ++ ", value: " ++ value.describe ++ " \x7d") ::
      describeEntries rest

def describeItems : List Literal → List String
  | [] => []
  | item :: rest => item.describe :: describeItems rest

end

/-- Why a template literal is refused. -/
inductive Fault where
  /-- The source is no sequence of tokens, or they do not have the form of a literal. -/
  | malformed
  | missing
  | expectedValue
  | noSelector
  | manySelectors (count : Nat)
  | notATemplate (found : Kind)
  | childrenNotAList (found : Kind)
  | notText (key : String) (found : Kind)
  /-- A float that ends in its point cannot be given a suffix. -/
  | cannotSuffix (digits : String)
deriving DecidableEq, Repr

def Fault.message : Fault → String
  | malformed => "malformed template literal"
  | missing => "template! requires a template object or `(node)`"
  | expectedValue =>
    "expected a string, number, boolean, `null`, `\x7b...\x7d`, `[...]` or `(expr)`"
  | noSelector => "template object has no selector key"
  | manySelectors count =>
    "template object must have exactly one selector key, found " ++ toString count
  | notATemplate found => "expected a template object or `(node)`, found " ++ found.phrase
  | childrenNotAList found => "`children` must be a list, found " ++ found.phrase
  | notText key found => "`" ++ key ++ "` must be text, found " ++ found.phrase
  | cannotSuffix digits => "`" ++ digits ++ "` cannot take a suffix"

end Literal

end TemplateTree
