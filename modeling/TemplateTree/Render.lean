import TemplateTree.Build.Builder
import TemplateTree.Dom.Html
import TemplateTree.Dom.Target

/-! Templates straight to HTML, through an empty forest. -/

namespace TemplateTree

/-- The HTML of what a build made. -/
def BuildOutcome.html (outcome : BuildOutcome Dom NodeId DomFault) :
    Except (BuildFault DomFault) String :=
  outcome.result.map outcome.target.html

def renderJson (json : Json) : Except (BuildFault DomFault) String :=
  (buildJson {} json Dom.empty).html

def renderText (text : String) : Except (BuildFault DomFault) String :=
  (buildText {} text Dom.empty).html

end TemplateTree
