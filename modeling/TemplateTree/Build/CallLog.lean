import TemplateTree.Build.Target

/-! A target that builds nothing and logs every call. Its nodes are numbered from zero. -/

namespace TemplateTree

inductive Call where
  | create (node : Nat) (tag : String)
  | setAttribute (node : Nat) (name value : String)
  | setText (node : Nat) (text : String)
  | append (parent child : Nat)
deriving DecidableEq, Repr

structure CallLog where
  calls : List Call := []
  /-- How many elements have been created; the next one gets this number. -/
  created : Nat := 0
  /-- The tags that are refused. -/
  rejected : List String := []
deriving DecidableEq, Repr

structure RejectedTag where
  tag : String
deriving DecidableEq, Repr

def RejectedTag.message (fault : RejectedTag) : String :=
  "tag `" ++ fault.tag ++ "` rejected"

namespace CallLog

def rejecting (tags : List String) : CallLog :=
  { rejected := tags }

def record (log : CallLog) (call : Call) : CallLog :=
  { log with calls := log.calls ++ [call] }

def createElement (tag : String) : Action CallLog RejectedTag Nat := do
  let log ← get
  if log.rejected.contains tag then throw ⟨tag⟩
  set { log.record (.create log.created tag) with created := log.created + 1 }
  return log.created

instance : Target CallLog Nat RejectedTag where
  createElement := createElement
  setAttribute node name value := modify (·.record (.setAttribute node name value.display))
  setText node text := modify (·.record (.setText node text))
  appendChild parent child := modify (·.record (.append parent child))

end CallLog

end TemplateTree
