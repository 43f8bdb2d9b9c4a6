/-! Token trees of source text: words, marks and constants, grouped by brackets. -/

namespace TemplateTree.Literal

inductive Delimiter where
  | paren
  | bracket
  | brace
deriving DecidableEq, Repr

/-- A string constant: what it stands for and how it is written. -/
structure StringConstant where
  value : String
  source : String
deriving DecidableEq, Repr

/-- A number constant. Its digits are decimal, without separators; the source is written
without a sign. -/
structure NumberConstant where
  negative : Bool := false
  float : Bool
  digits : String
  suffix : String
  source : String
deriving DecidableEq, Repr

/-- The sign and the digits. -/
def NumberConstant.text (n : NumberConstant) : String :=
  if n.negative then "-" ++ n.digits else n.digits

inductive Constant where
  | string (text : StringConstant)
  | number (value : NumberConstant)
  /-- A character, a byte, or a string of bytes. -/
  | other (source : String)
deriving DecidableEq, Repr

def Constant.source : Constant → String
  | string text => text.source
  | number value => value.source
  | other source => source

inductive Tree where
  | word (text : String)
  /-- A joint mark makes one operator with the mark that follows. -/
  | mark (c : Char) (joint : Bool)
  | constant (value : Constant)
  | group (delimiter : Delimiter) (trees : List Tree)

namespace Tree

/-- The text of a group around the text of its trees. -/
def enclose (delimiter : Delimiter) (content : String) : String :=
  match delimiter with
  | .paren => "(" ++ content ++ ")"
  | .bracket => "[" ++ content ++ "]"
  | .brace => "\x7b " ++ (if content.isEmpty then "" else content ++ " ") ++ "\x7d"

/-- Whether the next tree follows without a space. -/
def isJoint : Tree → Bool
  | mark _ joint => joint
  | _ => false

mutual

def print : Tree → String
  | word text => text
  | mark c _ => String.singleton c
  | constant value => value.source
  | group delimiter trees => enclose delimiter (printAll trees)

/-- One space between trees, and none behind a joint mark. -/
def printAll : List Tree → String
  | [] => ""
  | tree :: rest =>
    tree.print ++ (if rest.isEmpty || tree.isJoint then "" else " ") ++ printAll rest

end

/-- An operator of one or more marks. -/
def operator : List Char → List Tree
  | [] => []
  | c :: cs => mark c (!cs.isEmpty) :: operator cs

end Tree

end TemplateTree.Literal
