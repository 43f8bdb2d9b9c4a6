import TemplateTree.Text.Visible

/-! Quoted text for messages: hidden characters are written by their code points. -/

namespace TemplateTree.Text

def quoteChar (c : Char) : List Char :=
  if c = '\x00' then ['\\', '0']
  else if c = '\t' then ['\\', 't']
  else if c = '\r' then ['\\', 'r']
  else if c = '\n' then ['\\', 'n']
  else if c = '\\' ∨ c = '"' then ['\\', c]
  else if isHidden c then ['\\', 'u', '\x7b'] ++ Nat.toDigits 16 c.toNat ++ ['\x7d']
  else [c]

def quoted (text : String) : String :=
  "\"" ++ String.ofList (text.toList.flatMap quoteChar) ++ "\""

/-- The same for source text, where an octal digit may not stand behind a short zero. -/
def quoteSource : List Char → List Char
  | [] => []
  | '\x00' :: c :: cs =>
    (if '0' ≤ c ∧ c ≤ '7' then ['\\', 'x', '0', '0'] else ['\\', '0']) ++ quoteSource (c :: cs)
  | c :: cs => quoteChar c ++ quoteSource cs

def quotedSource (text : String) : String :=
  "\"" ++ String.ofList (quoteSource text.toList) ++ "\""

end TemplateTree.Text
