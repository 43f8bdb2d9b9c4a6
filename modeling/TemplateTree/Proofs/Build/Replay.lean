import TemplateTree.Proofs.Build.InForest
import TemplateTree.Proofs.Build.Stop

/-! # Replaying logs

The calls that a build leaves on a log, made again on another target, do there what the build
itself would do. -/

namespace TemplateTree

/-! ## Templates for other targets -/

section

variable {ν μ : Type}

mutual

/-- The template with each existing node changed into another one. -/
def Template.map (f : ν → μ) : Template ν → Template μ
  | .element text content => .element text (content.map f)
  | .node handle => .node (f handle)

def Content.map (f : ν → μ) : Content ν → Content μ
  | .text text => .text text
  | .bag ⟨properties, templates⟩ => .bag ⟨properties, Template.mapAll f templates⟩
  | .items templates => .items (Template.mapAll f templates)
  | .node handle => .node (f handle)

def Template.mapAll (f : ν → μ) : List (Template ν) → List (Template μ)
  | [] => []
  | template :: rest => template.map f :: Template.mapAll f rest

end

/-- Without existing nodes the root is the next new element. -/
theorem Template.root_map {template : Template ν} (h : template.handles = []) (number : ν → Nat)
    (next : Nat) : (template.map number).root next = next := by
  cases template with
  | element text content => rfl
  | node handle => simp [handles] at h

end

/-! ## Replays -/

variable {σ ν ε α β : Type} [Target σ ν ε]

/-- The node that stands for a number, which is its position among the nodes made so far. -/
def Call.node (missing : ε) (made : List ν) (number : Nat) : Action σ ε ν :=
  match made[number]? with
  | some node => pure node
  | none => throw missing

/-- Makes a call again, with nodes in place of numbers, and gives the nodes made so far. -/
def Call.replay (missing : ε) (made : List ν) : Call → Action σ ε (List ν)
  | .create _ tag => do
    let node ← Target.createElement tag
    return made ++ [node]
  | .setAttribute number name value => do
    Target.setAttribute (← node missing made number) name (.text value)
    return made
  | .setText number text => do
    Target.setText (← node missing made number) text
    return made
  | .append parent child => do
    Target.appendChild (← node missing made parent) (← node missing made child)
    return made

/-- Makes calls again one by one, up to the first that fails. -/
def Call.replayAll (missing : ε) (made : List ν) (calls : List Call) : Action σ ε (List ν) :=
  calls.foldlM (replay missing) made

/-- Attributes get the texts of their values. -/
def Target.WritesText (σ : Type) {ν ε : Type} [Target σ ν ε] : Prop :=
  ∀ (node : ν) (name : String) (value : AttrValue),
    (Target.setAttribute node name value : Action σ ε Unit) =
      Target.setAttribute node name (.text value.display)

theorem Dom.writesText : Target.WritesText Dom := fun _ _ _ => rfl

namespace Call

variable {missing : ε} {made made' : List ν} {first second : List Call} {target after : σ}

omit [Target σ ν ε] in
theorem run_returning (step : Action σ ε α) (f : α → β) (target : σ) :
    (step >>= fun a => pure (f a)).run.run target =
      ((step.run.run target).1.map f, (step.run.run target).2) := by
  rw [ExceptT.run_bind, StateT.run_bind]
  cases step.run.run target with
  | mk result after => cases result <;> rfl

/-- A number keeps its node when more nodes are made. -/
theorem getElem?_of_prefix {number : Nat} {known : ν} (h : made <+: made')
    (hn : made[number]? = some known) : made'[number]? = some known := by
  obtain ⟨hlt, rfl⟩ := List.getElem?_eq_some_iff.mp hn
  exact List.prefix_iff_getElem?.mp h number hlt

omit [Target σ ν ε] in
theorem node_of_getElem? {number : Nat} {known : ν} (h : made[number]? = some known) :
    (node missing made number : Action σ ε ν) = pure known := by
  rw [node, h]

theorem replayAll_append_of_ok
    (h : (replayAll missing made first).run.run target = (.ok made', after)) :
    (replayAll missing made (first ++ second)).run.run target =
      (replayAll missing made' second).run.run after := by
  unfold replayAll at h ⊢
  rw [List.foldlM_append, ExceptT.run_bind, StateT.run_bind, h]
  rfl

theorem replayAll_append_of_error {fault : ε}
    (h : (replayAll missing made first).run.run target = (.error fault, after)) :
    (replayAll missing made (first ++ second)).run.run target = (.error fault, after) := by
  unfold replayAll at h ⊢
  rw [List.foldlM_append, ExceptT.run_bind, StateT.run_bind, h]
  rfl

end Call

namespace Build

/-! ## Mirrored builds -/

/-- How a build ends when the replay of a script does: with the same fault, at the depth
where the script stops, or with a value that stands for the result of the script. -/
inductive Mirrored (config : BuildConfig) (made : List ν) (script : List Directive)
    (stands : List ν → α → Prop) : Except ε (List ν) → Except (BuildFault ε) α → Prop
  | refused (fault : ε) : Mirrored config made script stands (.error fault) (.error (.target fault))
  | tooDeep (all : List ν)
    (stops : script.findSome? (Directive.fault? config []) =
      some (.depthExceeded config.maxDepth)) :
    Mirrored config made script stands (.ok all) (.error (.depthExceeded config.maxDepth))
  | finished (all : List ν) (a : α) (goes : script.findSome? (Directive.fault? config []) = none)
    (keeps : made <+: all)
    (length_eq : all.length = made.length + (Directive.made script).length) (holds : stands all a) :
    Mirrored config made script stands (.ok all) (.ok a)

/-- The build does what replaying a script does, up to the first step that is not made. -/
def Mirrors (config : BuildConfig) (missing : ε) (build : Build σ ε α) (target : σ)
    (made : List ν) (script : List Directive) (stands : List ν → α → Prop) : Prop :=
  build.Ends target fun result after => ∃ replayed,
    (Call.replayAll missing made (Directive.calls made.length
      (FirstFault.reached (Directive.fault? config []) script))).run.run target = (replayed, after) ∧
    Mirrored config made script stands replayed result

section

variable {config : BuildConfig} {missing : ε} {target : σ} {made all : List ν}
  {script rest : List Directive} {stands : List ν → α → Prop} {stands' : List ν → β → Prop}

/-- What comes after a script that goes through. -/
theorem Mirrored.after {replayed : Except ε (List ν)} {result : Except (BuildFault ε) β}
    (h : Mirrored config all rest stands' replayed result)
    (goes : script.findSome? (Directive.fault? config []) = none) (keeps : made <+: all)
    (length_eq : all.length = made.length + (Directive.made script).length) :
    Mirrored config made (script ++ rest) stands' replayed result := by
  cases h with
  | refused fault => exact .refused fault
  | tooDeep all' stops =>
      refine .tooDeep all' ?_
      rw [List.findSome?_append, goes, Option.none_or, stops]
  | finished all' b goes' keeps' length_eq' holds =>
      refine .finished all' b ?_ (keeps.trans keeps') ?_ holds
      · rw [List.findSome?_append, goes, Option.none_or, goes']
      · rw [length_eq', length_eq, Directive.made_append, List.length_append, Nat.add_assoc]

namespace Mirrors

theorem pure {a : α} (h : stands made a) :
    Mirrors config missing (Pure.pure a : Build σ ε α) target made [] stands :=
  Ends.pure ⟨.ok made, rfl, .finished made a rfl (List.prefix_refl made) rfl h⟩

/-- A build that mirrors one script and goes on with another mirrors both together. -/
theorem bind {build : Build σ ε α} {next : α → Build σ ε β}
    (h : Mirrors config missing build target made script stands)
    (hn : ∀ a all after, made <+: all →
      all.length = made.length + (Directive.made script).length → stands all a →
      Mirrors config missing (next a) after all rest stands') :
    Mirrors config missing (build >>= next) target made (script ++ rest) stands' := by
  refine Ends.bind h ?_ ?_
  · rintro a middle ⟨_, hr, hm⟩
    cases hm with
    | finished all _ goes keeps length_eq holds =>
        refine (hn a all middle keeps length_eq holds).imp ?_
        rintro result after ⟨replayed, hrest, hmirrored⟩
        refine ⟨replayed, ?_, hmirrored.after goes keeps length_eq⟩
        rw [FirstFault.reached_eq_self goes] at hr
        rw [FirstFault.reached_append_of_none goes, Directive.calls_append,
          Call.replayAll_append_of_ok hr, ← length_eq, hrest]
  · rintro fault middle ⟨_, hr, hm⟩
    cases hm with
    | refused fault =>
        refine ⟨.error fault, ?_, .refused fault⟩
        cases hs : script.findSome? (Directive.fault? config []) with
        | none =>
            rw [FirstFault.reached_eq_self hs] at hr
            rw [FirstFault.reached_append_of_none hs, Directive.calls_append,
              Call.replayAll_append_of_error hr]
        | some _ => rw [FirstFault.reached_append_of_some hs, hr]
    | tooDeep all stops =>
        refine ⟨.ok all, ?_, .tooDeep all ?_⟩
        · rw [FirstFault.reached_append_of_some stops, hr]
        · rw [List.findSome?_append, stops, Option.some_or]

theorem bind_pure {build : Build σ ε α} {b : β}
    (h : Mirrors config missing build target made script stands)
    (hb : ∀ all, made <+: all → all.length = made.length + (Directive.made script).length →
      stands' all b) :
    Mirrors config missing (build >>= fun _ => Pure.pure b) target made script stands' := by
  rw [← List.append_nil script]
  exact h.bind fun _ all _ keeps length_eq _ => pure (hb all keeps length_eq)

/-- A single step, after which `all` are the nodes made. -/
theorem step {step : Action σ ε α} {directive : Directive} (all : α → List ν)
    (hf : directive.fault? config [] = none)
    (hr : (Call.replay missing made (directive.call made.length)).run.run target =
      ((step.run.run target).1.map all, (step.run.run target).2))
    (keeps : ∀ a, made <+: all a)
    (length_eq : ∀ a, (all a).length = made.length + directive.site?.toList.length)
    (holds : ∀ a, stands (all a) a) :
    Mirrors config missing (Build.act step) target made [directive] stands := by
  have goes : [directive].findSome? (Directive.fault? config []) = none := by
    rw [List.findSome?_singleton, hf]
  apply Ends.act
  refine ⟨(step.run.run target).1.map all, ?_, ?_⟩
  · rw [FirstFault.reached_eq_self goes]
    show (Call.replay missing made (directive.call made.length) >>= _).run.run target = _
    rw [ExceptT.run_bind, StateT.run_bind, hr]
    cases (step.run.run target).1 <;> rfl
  · cases (step.run.run target).1 with
    | error fault => exact .refused fault
    | ok a =>
        refine .finished (all a) a goes (keeps a) ?_ (holds a)
        rw [length_eq, Directive.made_cons, List.length_append]
        rfl

/-- A step that makes an element. -/
theorem create (site : Site) (hd : site.depth < config.maxDepth) :
    Mirrors config missing (Build.act (Target.createElement site.tag)) target made [.make site]
      fun all node => all[made.length]? = some node := by
  refine step (fun node => made ++ [node]) (if_neg (Nat.not_le.mpr hd)) ?_ ?_ ?_ ?_
  · exact Call.run_returning ..
  · exact fun node => List.prefix_append made [node]
  · exact fun _ => List.length_append
  · exact fun _ => List.getElem?_concat_length

/-- A step that makes no element. -/
theorem act {step : Action σ ε Unit} {directive : Directive} (hs : directive.site? = none)
    (hr : (Call.replay missing made (directive.call made.length)).run.run target =
      ((step.run.run target).1.map fun _ => made, (step.run.run target).2)) :
    Mirrors config missing (Build.act step) target made [directive] fun _ _ => True := by
  refine Mirrors.step (fun _ => made) ?_ hr (fun _ => List.prefix_refl made) ?_ fun _ => trivial
  · rw [Directive.fault?, hs]
    rfl
  · rw [hs]
    exact fun _ => rfl

variable {number : Nat} {node : ν} (hn : made[number]? = some node)

include hn

theorem setAttribute (hw : Target.WritesText σ) (name : String) (value : AttrValue) :
    Mirrors config missing (Build.act (Target.setAttribute node name value)) target made
      [.setAttribute number name value.display] fun _ _ => True := by
  refine act rfl ?_
  rw [Directive.call, Call.replay, Call.node_of_getElem? hn, pure_bind, hw node name value]
  exact Call.run_returning ..

theorem setText (text : String) :
    Mirrors config missing (Build.act (Target.setText node text)) target made
      [.setText number text] fun _ _ => True := by
  refine act rfl ?_
  rw [Directive.call, Call.replay, Call.node_of_getElem? hn, pure_bind]
  exact Call.run_returning ..

theorem append {other : Nat} {child : ν} (hc : made[other]? = some child) :
    Mirrors config missing (Build.act (Target.appendChild node child)) target made
      [.append number other] fun _ _ => True := by
  refine act rfl ?_
  rw [Directive.call, Call.replay, Call.node_of_getElem? hn, Call.node_of_getElem? hc, pure_bind,
    pure_bind]
  exact Call.run_returning ..

theorem setGiven (hw : Target.WritesText σ) (name : String) (value : Option String) :
    Mirrors config missing (Build.setGiven node name value) target made
      ((value.map fun text => (name, text)).toList.map
        fun (name, value) => .setAttribute number name value) fun _ _ => True := by
  cases value with
  | none => exact pure trivial
  | some value => exact setAttribute hn hw name (.text value)

theorem applyProperty (hw : Target.WritesText σ) (property : Property) :
    Mirrors config missing (Build.applyProperty node property) target made
      [property.directive number] fun _ _ => True := by
  cases property with
  | attr name value => exact setAttribute hn hw name value
  | html text => exact setText hn text
  | style css => exact setAttribute hn hw "style" (.text css)

theorem applyProperties (hw : Target.WritesText σ) (properties : List Property) :
    Mirrors config missing (properties.forM (Build.applyProperty node)) target made
      (properties.map (·.directive number)) fun _ _ => True := by
  induction properties generalizing target made with
  | nil => exact pure trivial
  | cons property rest ih =>
      exact (applyProperty hn hw property).bind fun _ _ _ keeps _ _ =>
        ih (Call.getElem?_of_prefix keeps hn)

omit hn

theorem of_too_deep {build : Build σ ε α} {directive : Directive}
    (hf : directive.fault? config [] = some (.depthExceeded config.maxDepth))
    (h : build.EndsIn target (.error (.depthExceeded config.maxDepth)) target) :
    Mirrors config missing build target made (directive :: script) stands := by
  refine h.imp ?_
  rintro _ _ ⟨rfl, rfl⟩
  refine ⟨.ok made, ?_, .tooDeep made ?_⟩
  · rw [FirstFault.reached_cons_of_some hf]
    rfl
  · rw [List.findSome?_cons, hf]

theorem startElement (hw : Target.WritesText σ) (depth : Nat) (text : String)
    (kind : ContentKind) :
    let selector := Selector.parseWith config.defaultTag text
    Mirrors config missing (Build.startElement config depth text kind) target made
      (.make ⟨depth, selector.tag⟩ ::
        selector.writes.map fun (name, value) => .setAttribute made.length name value)
      fun all node => all[made.length]? = some node := by
  intro selector
  by_cases hd : config.maxDepth ≤ depth
  · exact of_too_deep (if_pos hd) (startElement_of_too_deep hd)
  have hd : depth < config.maxDepth := Nat.lt_of_not_le hd
  refine (EndsIn.checkDepth_ok hd target).bind_ok ((EndsIn.report _ target).bind_ok ?_)
  refine (create ⟨depth, selector.tag⟩ hd).bind fun node all _ keeps length_eq hn => ?_
  have hn : all[made.length]? = some node := hn
  rw [Selector.writes, List.map_append]
  refine (setGiven hn hw "class" _).bind fun _ later _ keeps' _ _ => ?_
  have hn := Call.getElem?_of_prefix keeps' hn
  exact (setGiven hn hw "id" _).bind_pure fun _ keeps _ => Call.getElem?_of_prefix keeps hn

end Mirrors

end

/-! ## Whole templates -/

section

variable (config : BuildConfig) (missing : ε) (number : ν → Nat)

-- By induction on the template. The nodes made so far grow along the script, and each number
-- keeps the node that it has got.
mutual

theorem template_mirrors (hw : Target.WritesText σ) : ∀ (item : Template ν) (depth : Nat)
    (target : σ) (made : List ν), item.handles = [] →
    Mirrors config missing (template config depth item) target made
      ((item.map number).script config.defaultTag depth made.length)
      fun all node => all[made.length]? = some node
  | .node _, _, _, _, h => by simp [Template.handles] at h
  | .element text value, depth, _, made, h => by
      rw [template, Template.map, Template.script]
      refine (Mirrors.startElement hw depth text value.kind).bind
        fun node all after _ length_eq hn => ?_
      have hc := content_mirrors hw value depth after all h hn
      rw [length_eq, Directive.made_cons, Directive.made_setAttributes] at hc
      exact hc.bind_pure fun _ keeps _ => Call.getElem?_of_prefix keeps hn

theorem content_mirrors (hw : Target.WritesText σ) : ∀ (value : Content ν) (depth : Nat)
    (target : σ) (made : List ν) {place : Nat} {node : ν}, value.handles = [] →
    made[place]? = some node →
    Mirrors config missing (content config depth node value) target made
      ((value.map number).script config.defaultTag (depth + 1) place made.length) fun _ _ => True
  | .text text, _, _, _, _, _, _, hn => Mirrors.setText hn text
  | .bag ⟨properties, templates⟩, depth, _, made, place, _, h, hn => by
      rw [content, Content.map, Content.script]
      refine (Mirrors.applyProperties hn hw properties).bind
        fun _ all after keeps length_eq _ => ?_
      have hc := children_mirrors hw templates depth after all h
        (Call.getElem?_of_prefix keeps hn)
      rwa [length_eq, Directive.made_properties] at hc
  | .items templates, depth, target, made, _, _, h, hn =>
      children_mirrors hw templates depth target made h hn
  | .node _, _, _, _, _, _, h, _ => by simp [Content.handles] at h

theorem children_mirrors (hw : Target.WritesText σ) : ∀ (items : List (Template ν)) (depth : Nat)
    (target : σ) (made : List ν) {place : Nat} {node : ν}, Template.handlesOf items = [] →
    made[place]? = some node →
    Mirrors config missing (children config depth node items) target made
      (Template.scriptOf config.defaultTag (depth + 1) place made.length
        (Template.mapAll number items)) fun _ _ => True
  | [], _, _, _, _, _, _, _ => .pure trivial
  | item :: rest, depth, _, made, place, node, h, hn => by
      rw [Template.handlesOf, List.append_eq_nil_iff] at h
      rw [children, Template.mapAll, Template.scriptOf]
      refine (template_mirrors hw item (depth + 1) _ made h.1).bind
        fun child all middle keeps length_eq hc => ?_
      rw [← Template.root_map h.1 number made.length] at hc
      have hn := Call.getElem?_of_prefix keeps hn
      refine (Mirrors.append hn hc).bind fun _ later after keeps' length_eq' _ => ?_
      have hr := children_mirrors hw rest depth after later h.2
        (Call.getElem?_of_prefix keeps' hn)
      rwa [length_eq', length_eq] at hr

end

end

end Build

namespace Template

theorem build_mirrors (hw : Target.WritesText σ) (config : BuildConfig) (missing : ε)
    (number : ν → Nat) {template : Template ν} (ht : template.handles = []) (target : σ) :
    let script := (template.map number).script config.defaultTag 0 0
    let run := template.build config target
    ∃ replayed, (Call.replayAll missing []
        (Directive.calls 0 (FirstFault.reached (Directive.fault? config []) script))).run.run
          target = (replayed, run.target) ∧
      Build.Mirrored config [] script (fun all node => all[0]? = some node) replayed run.result :=
  Build.template_mirrors config missing number hw template 0 target [] ht []

/-- Replaying what a build records on an empty log leaves a forest as building in it does. Where
the replay fails the build has failed with the same fault; otherwise the build has stopped at
the depth where the recorded one has, or has given the node that stands for its result. -/
theorem build_replays (dom : Dom) (config : BuildConfig) {template : Template NodeId}
    (ht : template.handles = []) (number : NodeId → Nat) (missing : DomFault) :
    let log := (template.map number).build config ({} : CallLog)
    let run := template.build config dom
    let replay := (Call.replayAll missing [] log.target.calls).run.run dom
    run.target = replay.2 ∧
      (∀ fault, replay.1 = .error fault → run.result = .error (.target fault)) ∧
      ∀ made, replay.1 = .ok made →
        (log.result = .error (.depthExceeded config.maxDepth) ∧
          run.result = .error (.depthExceeded config.maxDepth)) ∨
        ∃ root node, log.result = .ok root ∧ made[root]? = some node ∧ run.result = .ok node := by
  intro log run replay
  obtain ⟨hresult, htarget⟩ := build_follows {} config (template.map number)
  have hcalls : log.target.calls = Directive.calls 0 (FirstFault.reached
      (Directive.fault? config []) ((template.map number).script config.defaultTag 0 0)) := by
    rw [htarget]
    exact List.nil_append _
  obtain ⟨replayed, hreplay, hm⟩ :=
    build_mirrors Dom.writesText config missing number ht dom
  rw [← hcalls] at hreplay
  have hr : replay = (replayed, run.target) := hreplay
  rw [hr]
  refine ⟨rfl, ?_⟩
  dsimp only
  generalize hrun : run.result = result at hm ⊢
  cases hm with
  | refused fault =>
      refine ⟨?_, fun _ => (nomatch ·)⟩
      rintro _ ⟨⟩
      rfl
  | tooDeep all stops =>
      refine ⟨fun _ => (nomatch ·), fun _ _ => .inl ⟨?_, rfl⟩⟩
      rw [hresult, FirstFault.outcome_of_some stops]
  | finished all node goes _ _ holds =>
      refine ⟨fun _ => (nomatch ·), ?_⟩
      rintro _ ⟨⟩
      refine .inr ⟨0, node, ?_, holds, rfl⟩
      rw [hresult, FirstFault.outcome_of_none goes]
      exact congrArg Except.ok (root_map ht number 0)

/-- A list whose second item has a tag that a log takes and a forest does not. -/
def ranking : Template NodeId :=
  .element "ol.top" (.items [.element "li" (.text "one"), .element "2nd" (.text "two")])

theorem build_ranking :
    let dom := Dom.empty.applyAll [.insert { tag := "p" }]
    let log := (ranking.map NodeId.index).build {} ({} : CallLog)
    let run := ranking.build {} dom
    let replay := (Call.replayAll .hierarchyRequest [] log.target.calls).run.run dom
    ranking.handles = [] ∧ log.result = .ok 0 ∧ replay.1 = .error (.invalidTagName "2nd") ∧
      run.result = .error (.target (.invalidTagName "2nd")) ∧ run.target = replay.2 := by
  intro dom log run replay
  have hlog : log.result = .ok 0 := by decide +kernel
  have hreplay : replay.1 = .error (.invalidTagName "2nd") := by decide +kernel
  have ht : ranking.handles = [] := rfl
  obtain ⟨htarget, hstop, -⟩ := build_replays dom {} ht NodeId.index .hierarchyRequest
  exact ⟨ht, hlog, hreplay, hstop _ hreplay, htarget⟩

end Template

end TemplateTree
