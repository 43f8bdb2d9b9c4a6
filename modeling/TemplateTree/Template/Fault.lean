import TemplateTree.Json.Basic
import TemplateTree.Json.Fault

/-! Why something is not a template. -/

namespace TemplateTree

inductive TemplateFault where
  | notAnObject (found : Json.Kind)
  | emptyTemplate
  | multipleKeys (keys : List String)
  | childrenNotAList (selector : String) (found : Json.Kind)
  | json (error : Json.Error)
deriving DecidableEq, Repr

def TemplateFault.message : TemplateFault → String
  | notAnObject found =>
    "template must be an object with one selector key, found " ++ found.phrase
  | emptyTemplate => "template object has no selector key"
  | multipleKeys keys =>
    "template object must have exactly one selector key, found " ++ toString keys.length ++
      ": " ++ ", ".intercalate keys
  | childrenNotAList selector found =>
    "`children` of `" ++ selector ++ "` must be a list, found " ++ found.phrase
  | json error => "invalid JSON: " ++ error.message

end TemplateTree
