import TemplateTree.Proofs.Build.FirstFault
import TemplateTree.Proofs.Build.Script
import TemplateTree.Proofs.Build.Steps

/-! # Following scripts

On a log, a build follows the script of its template up to the first element that it may not
make. -/

namespace TemplateTree

/-! ## Faults -/

/-- Why an element may not be made. The depth is looked at before the tag. -/
def Site.fault? (config : BuildConfig) (rejected : List String) (site : Site) :
    Option (BuildFault RejectedTag) :=
  if config.maxDepth ≤ site.depth then some (.depthExceeded config.maxDepth)
  else if rejected.contains site.tag then some (.target ⟨site.tag⟩)
  else none

def Directive.fault? (config : BuildConfig) (rejected : List String) (directive : Directive) :
    Option (BuildFault RejectedTag) :=
  directive.site?.bind (·.fault? config rejected)

/-! ## Following a script -/

namespace CallLog

/-- The log after a script without faults. -/
def follow (log : CallLog) (script : List Directive) : CallLog :=
  { log with
    calls := log.calls ++ Directive.calls log.created script
    created := log.created + (Directive.made script).length }

theorem created_follow (log : CallLog) (script : List Directive) :
    (log.follow script).created = log.created + (Directive.made script).length := rfl

theorem follow_append (log : CallLog) (first second : List Directive) :
    log.follow (first ++ second) = (log.follow first).follow second := by
  simp [follow, Directive.calls_append, Nat.add_assoc]

theorem follow_cons (log : CallLog) (directive : Directive) (rest : List Directive) :
    log.follow (directive :: rest) = (log.follow [directive]).follow rest :=
  log.follow_append [directive] rest

theorem follow_nil (log : CallLog) : log.follow [] = log := by
  simp [follow, Directive.calls, Directive.made]

theorem run_createElement (log : CallLog) (site : Site) :
    (Target.createElement site.tag : Action CallLog RejectedTag Nat).run.run log =
      if log.rejected.contains site.tag then (.error ⟨site.tag⟩, log)
      else (.ok log.created, log.follow [.make site]) := by
  show (if log.rejected.contains site.tag then throw ⟨site.tag⟩ else do
    set { log.record (.create log.created site.tag) with created := log.created + 1 }
    return log.created : Action CallLog RejectedTag Nat).run.run log = _
  split <;> rfl

end CallLog

namespace Build

variable {α β : Type} {config : BuildConfig} {log : CallLog} {script : List Directive}

/-- The build does what the script says, up to the first step that fails. -/
def Follows (config : BuildConfig) (build : Build CallLog RejectedTag α) (log : CallLog)
    (script : List Directive) (a : α) : Prop :=
  build.EndsIn log (FirstFault.outcome (Directive.fault? config log.rejected) script a)
    (log.follow (FirstFault.reached (Directive.fault? config log.rejected) script))

namespace Follows

theorem pure (a : α) : Follows config (Pure.pure a) log [] a := by
  unfold Follows
  refine Ends.pure ⟨rfl, ?_⟩
  simp [CallLog.follow, FirstFault.reached, Directive.calls, Directive.made]

theorem bind {build : Build CallLog RejectedTag α} {next : α → Build CallLog RejectedTag β}
    {rest : List Directive} {a : α} {b : β} (h : Follows config build log script a)
    (hn : Follows config (next a) (log.follow script) rest b) :
    Follows config (build >>= next) log (script ++ rest) b := by
  unfold Follows at h hn ⊢
  cases hs : script.findSome? (Directive.fault? config log.rejected) with
  | none =>
      rw [FirstFault.outcome_of_none hs, FirstFault.reached_eq_self hs] at h
      rw [FirstFault.outcome_append_of_none hs, FirstFault.reached_append_of_none hs,
        CallLog.follow_append]
      exact h.bind_ok hn
  | some fault =>
      rw [FirstFault.outcome_of_some hs] at h
      rw [FirstFault.outcome_append_of_some hs, FirstFault.reached_append_of_some hs]
      exact EndsIn.bind_error h ⟨rfl, rfl⟩

theorem bind_pure {build : Build CallLog RejectedTag α} {a : α}
    (h : Follows config build log script a) (b : β) :
    Follows config (build >>= fun _ => Pure.pure b) log script b := by
  rw [← List.append_nil script]
  exact h.bind (pure b)

/-- A step that the log only records. -/
theorem act {step : Action CallLog RejectedTag Unit} {directive : Directive}
    (hs : directive.site? = none)
    (hr : step.run.run log = (.ok (), log.record (directive.call log.created))) :
    Follows config (Build.act step) log [directive] () := by
  have hf : directive.fault? config log.rejected = none := by rw [Directive.fault?, hs]; rfl
  unfold Follows
  apply Ends.act
  rw [hr]
  rw [FirstFault.outcome_cons_of_none hf, FirstFault.reached_cons_of_none hf]
  refine ⟨rfl, ?_⟩
  simp [CallLog.follow, CallLog.record, FirstFault.reached, Directive.calls, hs, Directive.made]

theorem setAttribute (node : Nat) (name : String) (value : AttrValue) :
    Follows config (Build.act (Target.setAttribute node name value)) log
      [.setAttribute node name value.display] () :=
  act rfl rfl

theorem setText (node : Nat) (text : String) :
    Follows config (Build.act (Target.setText node text)) log [.setText node text] () :=
  act rfl rfl

theorem append (parent child : Nat) :
    Follows config (Build.act (Target.appendChild parent child)) log [.append parent child] () :=
  act rfl rfl

theorem setGiven (node : Nat) (name : String) (value : Option String) :
    Follows config (Build.setGiven node name value) log
      ((value.map fun text => (name, text)).toList.map
        fun (name, value) => .setAttribute node name value) () := by
  cases value with
  | none => exact pure ()
  | some value => exact setAttribute node name (.text value)

theorem applyProperty (node : Nat) (property : Property) :
    Follows config (Build.applyProperty node property) log [property.directive node] () := by
  cases property with
  | attr name value => exact setAttribute node name value
  | html text => exact setText node text
  | style css => exact setAttribute node "style" (.text css)

theorem applyProperties (node : Nat) (properties : List Property) :
    Follows config (properties.forM (Build.applyProperty node)) log
      (properties.map (·.directive node)) () := by
  induction properties generalizing log with
  | nil => exact pure ()
  | cons property rest ih => exact (applyProperty node property).bind ih

theorem of_fault {build : Build CallLog RejectedTag α} {directive : Directive}
    {fault : BuildFault RejectedTag} (hf : directive.fault? config log.rejected = some fault)
    (h : build.EndsIn log (.error fault) log) (a : α) :
    Follows config build log (directive :: script) a := by
  rw [Follows, FirstFault.outcome_cons_of_some hf, FirstFault.reached_cons_of_some hf,
    CallLog.follow_nil]
  exact h

theorem startElement (depth : Nat) (text : String) (kind : ContentKind) :
    let selector := Selector.parseWith config.defaultTag text
    Follows config (Build.startElement config depth text kind) log
      (.make ⟨depth, selector.tag⟩ ::
        selector.writes.map fun (name, value) => .setAttribute log.created name value)
      log.created := by
  intro selector
  have hc := log.run_createElement ⟨depth, selector.tag⟩
  by_cases hd : config.maxDepth ≤ depth
  · have hf : Directive.fault? config log.rejected (.make ⟨depth, selector.tag⟩) =
        some (.depthExceeded config.maxDepth) := if_pos hd
    exact of_fault hf (startElement_of_too_deep hd) log.created
  have hlt : depth < config.maxDepth := Nat.lt_of_not_le hd
  by_cases ht : log.rejected.contains selector.tag
  · have hf : Directive.fault? config log.rejected (.make ⟨depth, selector.tag⟩) =
        some (.target ⟨selector.tag⟩) := (if_neg hd).trans (if_pos ht)
    exact of_fault hf (startElement_of_refused hlt (hc.trans (if_pos ht))) log.created
  · have hf : Directive.fault? config log.rejected (.make ⟨depth, selector.tag⟩) = none :=
      (if_neg hd).trans (if_neg ht)
    rw [Follows, FirstFault.outcome_cons_of_none hf, FirstFault.reached_cons_of_none hf,
      CallLog.follow_cons]
    refine startElement_of_created hlt (hc.trans (if_neg ht)) ?_
    rw [Selector.writes, List.map_append]
    exact (setGiven log.created "class" _).bind ((setGiven log.created "id" _).bind_pure _)

end Follows

/-! ## Whole templates -/

-- By induction on the template, for every log, since each item starts from the log that the
-- items before it have left.
mutual

theorem template_follows : ∀ (item : Template Nat) (depth : Nat) (log : CallLog),
    Follows config (template config depth item) log
      (item.script config.defaultTag depth log.created) (item.root log.created)
  | .node handle, _, _ => .pure handle
  | .element text value, depth, log => by
      rw [template, Template.script]
      refine (Follows.startElement depth text value.kind).bind (Follows.bind_pure (a := ()) ?_ _)
      have hc := content_follows value depth log.created (log.follow
        (.make ⟨depth, (Selector.parseWith config.defaultTag text).tag⟩ ::
          (Selector.parseWith config.defaultTag text).writes.map
            fun (name, value) => .setAttribute log.created name value))
      rwa [CallLog.created_follow, Directive.made_cons, Directive.made_setAttributes] at hc

theorem content_follows : ∀ (value : Content Nat) (depth node : Nat) (log : CallLog),
    Follows config (content config depth node value) log
      (value.script config.defaultTag (depth + 1) node log.created) ()
  | .text text, _, node, _ => .setText node text
  | .bag ⟨properties, templates⟩, depth, node, log => by
      rw [content, Content.script]
      refine (Follows.applyProperties node properties).bind ?_
      have hc := children_follows templates depth node
        (log.follow (properties.map (·.directive node)))
      rwa [CallLog.created_follow, Directive.made_properties] at hc
  | .items templates, depth, node, log => children_follows templates depth node log
  | .node handle, _, node, _ => .append node handle

theorem children_follows : ∀ (items : List (Template Nat)) (depth node : Nat) (log : CallLog),
    Follows config (children config depth node items) log
      (Template.scriptOf config.defaultTag (depth + 1) node log.created items) ()
  | [], _, _, _ => .pure ()
  | item :: rest, depth, node, log => by
      rw [children, Template.scriptOf]
      refine (template_follows item (depth + 1) log).bind ((Follows.append node _).bind ?_)
      exact children_follows rest depth node _

end

end Build

end TemplateTree
