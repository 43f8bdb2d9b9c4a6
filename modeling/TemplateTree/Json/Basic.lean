import TemplateTree.Number.Basic

/-! JSON values. The members of an object keep their order. -/

namespace TemplateTree

inductive Json where
  | null
  | bool (value : Bool)
  | number (value : Number)
  | string (text : String)
  | array (items : List Json)
  | object (members : List (String × Json))
deriving Inhabited

namespace Json

inductive Kind where
  | null
  | boolean
  | number
  | string
  | list
  | object
deriving DecidableEq, Repr

def kind : Json → Kind
  | null => .null
  | bool _ => .boolean
  | number _ => .number
  | string _ => .string
  | array _ => .list
  | object _ => .object

def Kind.phrase : Kind → String
  | null => "null"
  | boolean => "a boolean"
  | number => "a number"
  | string => "a string"
  | list => "a list"
  | object => "an object"

def isContainer : Json → Bool
  | array _ | object _ => true
  | _ => false

end Json

end TemplateTree
