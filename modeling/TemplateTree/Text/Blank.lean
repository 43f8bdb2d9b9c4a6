import TemplateTree.Text.Ranges

/-! Blank characters and the words between them. -/

namespace TemplateTree.Text

/-- Where the blank code points begin and end, by turns. -/
def blankBounds : List Nat :=
  [9, 14, 32, 33, 133, 134, 160, 161, 5760, 5761, 8192, 8203, 8232, 8234, 8239, 8240,
    8287, 8288, 12288, 12289]

def isBlank (c : Char) : Bool :=
  inRanges blankBounds c.toNat

/-- Cuts at every blank; adjacent blanks leave empty pieces between them. -/
def pieces : List Char → List Char × List (List Char)
  | [] => ([], [])
  | c :: cs =>
    let (first, rest) := pieces cs
    if isBlank c then ([], first :: rest) else (c :: first, rest)

/-- The words of a text, without the blanks around them. -/
def words (text : String) : List String :=
  let (first, rest) := pieces text.toList
  ((first :: rest).filter (!·.isEmpty)).map String.ofList

end TemplateTree.Text
