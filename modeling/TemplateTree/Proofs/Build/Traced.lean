import TemplateTree.Proofs.Build.Plan
import TemplateTree.Proofs.Build.Stop
import TemplateTree.Proofs.Selector.Canonical

/-! # Traces of builds

Before a build creates an element it reports it, and right after it has created the element it
writes the class and the id. So the events of a build and the calls that it leaves on a log go
side by side, element by element in document order, up to the place where the build stops. -/

namespace TemplateTree

/-- Whether an event reports an element that is about to be created. -/
def BuildEvent.isElement : BuildEvent → Bool
  | .element _ _ _ => true
  | .dropped _ _ => false

/-- The calls that give a node the class and then the id of a selector. -/
def Selector.calls (selector : Selector) (node : Nat) : List Call :=
  selector.writes.map fun (name, value) => .setAttribute node name value

namespace Occurrence

variable {ν : Type}

/-- What a build reports when it comes to an element. -/
def event (defaultTag : String) (element : Occurrence ν) : BuildEvent :=
  .element (Selector.parseWith defaultTag element.selector) element.depth element.content.kind

def fault? (config : BuildConfig) (rejected : List String) (element : Occurrence ν) :
    Option (BuildFault RejectedTag) :=
  (element.site config.defaultTag).fault? config rejected

/-- The elements that a build on a log reports. An element that lies too deep is not reported any
more, and one with a refused tag is. -/
def announced (config : BuildConfig) (rejected : List String) :
    List (Occurrence ν) → List (Occurrence ν)
  | [] => []
  | element :: rest =>
    match element.fault? config rejected with
    | none => element :: announced config rejected rest
    | some (.target _) => [element]
    | some _ => []

variable {config : BuildConfig} {rejected : List String} {first : List (Occurrence ν)}

theorem announced_append_of_none (h : first.findSome? (fault? config rejected) = none)
    (rest : List (Occurrence ν)) :
    announced config rejected (first ++ rest) = first ++ announced config rejected rest := by
  induction first with
  | nil => rfl
  | cons element first ih =>
      rw [List.findSome?_eq_none_iff, List.forall_mem_cons, ← List.findSome?_eq_none_iff] at h
      rw [List.cons_append, announced, h.1, ih h.2, List.cons_append]

theorem announced_singleton (config : BuildConfig) (rejected : List String)
    (element : Occurrence ν) :
    announced config rejected [element] =
      if config.maxDepth ≤ element.depth then [] else [element] := by
  rw [announced, fault?, Site.fault?, site]
  by_cases hd : config.maxDepth ≤ element.depth
  · rw [if_pos hd, if_pos hd]
  · rw [if_neg hd, if_neg hd]
    split_ifs <;> rfl

theorem announced_eq_self (h : first.findSome? (fault? config rejected) = none) :
    announced config rejected first = first := by
  rw [← List.append_nil first, announced_append_of_none h]
  rfl

theorem announced_append_of_some {fault : BuildFault RejectedTag}
    (h : first.findSome? (fault? config rejected) = some fault) (rest : List (Occurrence ν)) :
    announced config rejected (first ++ rest) = announced config rejected first := by
  obtain ⟨before, element, after, rfl, he, hb⟩ := List.findSome?_eq_some_iff.mp h
  rw [← List.findSome?_eq_none_iff] at hb
  rw [List.append_assoc, announced_append_of_none hb, announced_append_of_none hb, List.cons_append,
    announced, announced, he]
  cases fault <;> rfl

end Occurrence

/-! ## Elements in scripts -/

namespace Directive

theorem findSome?_fault? (config : BuildConfig) (rejected : List String) (script : List Directive) :
    script.findSome? (fault? config rejected) =
      (made script).findSome? (Site.fault? config rejected) := by
  induction script with
  | nil => rfl
  | cons directive rest ih =>
      rw [List.findSome?_cons, made_cons, List.findSome?_append, ih, fault?]
      cases directive.site? with
      | none => rfl
      | some site => cases h : site.fault? config rejected <;> simp [h]

namespace Opens

variable {defaultTag : String} {next : Nat} {script rest : List Directive}
  {elements others : List (Occurrence Nat)}

/-- What a build with limits reaches of a script opens what it reaches of the elements. -/
theorem reached {config : BuildConfig} (rejected : List String)
    (h : Opens config.defaultTag next script elements) :
    Opens config.defaultTag next (FirstFault.reached (Directive.fault? config rejected) script)
      (FirstFault.reached (Occurrence.fault? config rejected) elements) := by
  induction h with
  | nil next => exact .nil next
  | @make next rest elements element _ ih =>
      have hwrites : (((Selector.parseWith config.defaultTag element.selector).writes.map
          fun (name, value) => Directive.setAttribute next name value).findSome?
            (Directive.fault? config rejected)) = none :=
        Directive.findSome?_fault?_eq_none (by simp [made_setAttributes])
      cases hf : element.fault? config rejected with
      | none =>
          have hmake : (Directive.make (element.site config.defaultTag)).fault? config rejected =
            none := hf
          rw [FirstFault.reached_cons_of_none hmake, FirstFault.reached_append_of_none hwrites,
            FirstFault.reached_cons_of_none hf]
          exact .make element ih
      | some fault =>
          have hmake : (Directive.make (element.site config.defaultTag)).fault? config rejected =
            some fault := hf
          rw [FirstFault.reached_cons_of_some hmake, FirstFault.reached_cons_of_some hf]
          exact .nil next
  | @other next directive rest elements quiet _ ih =>
      have hf : directive.fault? config rejected = none := by rw [Directive.fault?, quiet]; rfl
      rw [FirstFault.reached_cons_of_none hf]
      exact .other quiet ih

theorem findSome?_eq {config : BuildConfig} (rejected : List String)
    (h : Opens config.defaultTag next script elements) :
    script.findSome? (Directive.fault? config rejected) =
      elements.findSome? (Occurrence.fault? config rejected) := by
  rw [findSome?_fault?, h.made_eq, List.findSome?_map]
  rfl

end Opens

end Directive

/-! ## Reported elements -/

namespace Build

variable {σ ν ε α β : Type}

/-- The build reports nothing. -/
def Quiet (build : Build σ ε α) : Prop :=
  ∀ progress, (build.run.run progress).2.events = progress.events

namespace Quiet

theorem pure (a : α) : (Pure.pure a : Build σ ε α).Quiet :=
  fun _ => rfl

theorem act (step : Action σ ε α) : (Build.act step).Quiet :=
  fun _ => rfl

theorem bind {build : Build σ ε α} {next : α → Build σ ε β} (h : build.Quiet)
    (hn : ∀ a, (next a).Quiet) : (build >>= next).Quiet := by
  intro progress
  have hb := h progress
  simp only [ExceptT.run_bind, StateT.run_bind]
  cases hrun : build.run.run progress with
  | mk result after =>
      rw [hrun] at hb
      cases result with
      | ok a => exact (hn a after).trans hb
      | error fault => exact hb

variable [Target σ ν ε]

theorem setGiven (node : ν) (name : String) (value : Option String) :
    (setGiven node name value : Build σ ε Unit).Quiet := by
  cases value with
  | none => exact pure ()
  | some value => exact act _

theorem applyProperties (node : ν) (properties : List Property) :
    (properties.forM (applyProperty node) : Build σ ε Unit).Quiet := by
  induction properties with
  | nil => exact pure ()
  | cons property rest ih =>
      refine bind ?_ fun _ => ih
      cases property <;> exact act _

end Quiet

variable {config : BuildConfig} {log : CallLog} {script : List Directive}
  {elements : List (Occurrence Nat)}

/-- The build reports these elements, up to the first that may not be made. -/
def Announces (config : BuildConfig) (build : Build CallLog RejectedTag α) (log : CallLog)
    (elements : List (Occurrence Nat)) : Prop :=
  ∀ events, (build.run.run ⟨log, events⟩).2.events.filter BuildEvent.isElement =
    events.filter BuildEvent.isElement ++
      (Occurrence.announced config log.rejected elements).map (·.event config.defaultTag)

namespace Announces

theorem of_quiet {build : Build CallLog RejectedTag α} (h : build.Quiet) :
    Announces config build log [] := by
  intro events
  rw [h]
  exact (List.append_nil _).symm

/-- A build goes on to report elements unless its first part came to one that may not be made. -/
theorem bind {build : Build CallLog RejectedTag α} {next : α → Build CallLog RejectedTag β}
    {more : List (Occurrence Nat)} {a : α} (hfollows : Follows config build log script a)
    (hopens : Directive.Opens config.defaultTag log.created script elements)
    (h : Announces config build log elements)
    (hn : Announces config (next a) (log.follow script) more) :
    Announces config (build >>= next) log (elements ++ more) := by
  intro events
  obtain ⟨hresult, htarget⟩ := hfollows events
  have hevents := h events
  have hfaults := hopens.findSome?_eq log.rejected
  rw [FirstFault.outcome, hfaults] at hresult
  simp only [ExceptT.run_bind, StateT.run_bind]
  cases hrun : build.run.run ⟨log, events⟩ with
  | mk result progress =>
      obtain ⟨target, told⟩ := progress
      rw [hrun] at hresult htarget hevents
      dsimp only at hresult htarget hevents
      cases hfault : elements.findSome? (Occurrence.fault? config log.rejected) with
      | none =>
          rw [hfault] at hfaults hresult
          rw [FirstFault.reached_eq_self hfaults] at htarget
          rw [Occurrence.announced_eq_self hfault] at hevents
          subst hresult htarget
          rw [Occurrence.announced_append_of_none hfault, List.map_append, ← List.append_assoc,
            ← hevents]
          exact hn told
      | some fault =>
          rw [hfault] at hresult
          subst hresult
          rw [Occurrence.announced_append_of_some hfault]
          exact hevents

theorem bind_pure {build : Build CallLog RejectedTag α} (h : Announces config build log elements)
    (b : β) : Announces config (build >>= fun _ => Pure.pure b) log elements := by
  intro events
  rw [← h events]
  simp only [ExceptT.run_bind, StateT.run_bind]
  cases build.run.run ⟨log, events⟩ with
  | mk result progress => cases result <;> rfl

/-- The depth is looked at before the report, and the target is asked for the element after it. -/
theorem startElement (depth : Nat) (text : String) (content : Content Nat) :
    Announces config (startElement config depth text content.kind) log
      [⟨depth, text, content⟩] := by
  intro events
  let selector := Selector.parseWith config.defaultTag text
  let told := (Selector.dropped text).map (.dropped text) ++
    [BuildEvent.element selector depth content.kind]
  have hdropped : ((Selector.dropped text).map (BuildEvent.dropped text)).filter
      BuildEvent.isElement = [] := by
    rw [List.filter_eq_nil_iff, List.forall_mem_map]
    exact fun _ _ => Bool.false_ne_true
  have hcreate : Quiet (do
      let node ← Build.act (Target.createElement selector.tag)
      setGiven node "class" selector.className?
      setGiven node "id" selector.id
      return node : Build CallLog RejectedTag Nat) :=
    (Quiet.act _).bind fun node => (Quiet.setGiven node "class" _).bind fun _ =>
      (Quiet.setGiven node "id" _).bind fun _ => .pure node
  unfold Build.startElement
  by_cases hd : config.maxDepth ≤ depth
  · rw [checkDepth, if_pos hd, Occurrence.announced_singleton, if_pos hd]
    exact (List.append_nil _).symm
  · rw [checkDepth, if_neg hd, pure_bind, Occurrence.announced_singleton, if_neg hd]
    refine (congrArg (List.filter BuildEvent.isElement) (hcreate ⟨log, events ++ told⟩)).trans ?_
    rw [List.filter_append, List.filter_append, hdropped]
    rfl

end Announces

mutual

theorem template_announces : ∀ (item : Template Nat) (depth : Nat) (log : CallLog),
    Announces config (template config depth item) log (item.occurrences depth)
  | .node handle, _, _ => .of_quiet (.pure handle)
  | .element text value, depth, log => by
      rw [template]
      exact .bind (Follows.startElement depth text value.kind)
        (Directive.Opens.opening ⟨depth, text, value⟩ log.created) (.startElement depth text value)
        (.bind_pure (content_announces value depth log.created _) _)

theorem content_announces : ∀ (value : Content Nat) (depth node : Nat) (log : CallLog),
    Announces config (content config depth node value) log (value.occurrences (depth + 1))
  | .text _, _, _, _ => .of_quiet (.act _)
  | .bag ⟨properties, templates⟩, depth, node, log => by
      rw [content]
      exact .bind (Follows.applyProperties node properties) (.properties node _ properties)
        (.of_quiet (.applyProperties node properties)) (children_announces templates depth node _)
  | .items templates, depth, node, log => children_announces templates depth node log
  | .node _, _, _, _ => .of_quiet (.act _)

theorem children_announces : ∀ (items : List (Template Nat)) (depth node : Nat) (log : CallLog),
    Announces config (children config depth node items) log
      (Template.occurrencesOf (depth + 1) items)
  | [], _, _, _ => .of_quiet (.pure ())
  | item :: rest, depth, node, log => by
      rw [children]
      refine .bind (template_follows item (depth + 1) log)
        (Template.opens_script config.defaultTag item (depth + 1) log.created)
        (template_announces item (depth + 1) log) ?_
      exact .bind (Follows.append node _) (.other rfl (.nil _)) (.of_quiet (.act _))
        (children_announces rest depth node _)

end

end Build

/-! ## Events and calls -/

namespace Template

end Template

end TemplateTree
