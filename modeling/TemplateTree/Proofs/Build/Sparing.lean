import TemplateTree.Proofs.Build.Growth
import TemplateTree.Proofs.Dom.Seen
import TemplateTree.Proofs.Template.Parts

/-! # Histories that spare a tree

Operations that do not reach into a tree leave all that is seen of it as it was, though they may
move it as a whole. A build reaches for its own new nodes and for those that it embeds. -/

namespace TemplateTree

open Dom

/-! ## Builds -/

namespace Build

variable {first dom : Dom} {start node child : NodeId}

/-- A node that has just been made is in no tree of before. -/
theorem issued_notMem_walk (h : SameTree start first dom) : ⟨dom.issued⟩ ∉ first.walk start := by
  rw [← h.walk]
  intro hm
  simpa using h.isForest.live_of_mem_walk hm

theorem modifyElement_spares (h : SameTree start first dom) (hnode : node ∉ first.walk start)
    (change : Element → Element) : SameTree start first (dom.modifyElement node change) := by
  rw [← h.walk] at hnode
  exact h.trans (.modifyElement h.isForest h.live hnode change)

theorem appendChild_spares (h : SameTree start first dom) (hnode : node ∉ first.walk start)
    (hchild : child ∈ first.walk start → child = start) :
    (act (Target.appendChild node child) : Build Dom DomFault Unit).Ends dom
      fun _ after => SameTree start first after := by
  rw [← h.walk] at hnode hchild
  cases ha : dom.appendChild node child with
  | ok after =>
      exact (step_endsIn ha).ends
        (h.trans (.appendChild h.isForest h.live ha (fun _ => hnode) hchild))
  | error fault => exact (step_endsIn_error ha).ends h

variable (config : BuildConfig)

-- By induction on the template, with the unchanged tree as the invariant. A handle may stand for
-- a node that the build itself makes, so all that is asked of it is not to lie inside the tree.
mutual

theorem template_spares : ∀ (item : Template NodeId) {depth : Nat} {dom : Dom},
    (∀ id ∈ item.handles, id ∈ first.walk start → id = start) → SameTree start first dom →
    (template config depth item : Build Dom DomFault NodeId).Ends dom fun result after =>
      SameTree start first after ∧
        ∀ root, result = .ok root → root ∈ first.walk start → root = start
  | .node handle, _, _, hh, h => by
      refine Ends.pure ⟨h, ?_⟩
      rintro _ ⟨⟩
      exact hh handle (List.mem_singleton_self handle)
  | .element text value, depth, dom, hh, h => by
      rw [template]
      by_cases hd : config.maxDepth ≤ depth
      · exact (startElement_of_too_deep hd).bind_error ⟨h, fun _ hok => nomatch hok⟩
      by_cases ht : isValidTagName (Selector.parseWith config.defaultTag text).tag
      · refine (startElement_endsIn value.kind (by omega) ht).bind_ok ?_
        have hnew := issued_notMem_walk h
        refine (content_spares value hh (h.trans (.insert h.isForest h.live _)) (by simp)
          (children_of_insert h.isForest _) hnew).bind ?_ ?_
        · intro _ after hs
          refine Ends.pure ⟨hs, ?_⟩
          rintro _ ⟨⟩ hm
          exact absurd hm hnew
        · exact fun _ _ hs => ⟨hs, fun _ hok => nomatch hok⟩
      · have hc := (Dom.run_createElement dom _).trans (if_neg ht)
        exact (startElement_of_refused (by omega) hc).bind_error ⟨h, fun _ hok => nomatch hok⟩

theorem content_spares : ∀ (value : Content NodeId) {depth : Nat} {dom : Dom} {node : NodeId},
    (∀ id ∈ value.handles, id ∈ first.walk start → id = start) → SameTree start first dom →
    dom.contains node → dom.children node = [] → node ∉ first.walk start →
    (content config depth node value : Build Dom DomFault Unit).Ends dom
      fun _ after => SameTree start first after
  | .text text, _, _, _, _, h, hl, hc, hnode =>
      (setText_endsIn hl hc text).ends (modifyElement_spares h hnode _)
  | .bag ⟨properties, templates⟩, _, _, _, hh, h, hl, hc, hnode => by
      refine (applyProperties_endsIn hl hc properties).bind_ok ?_
      exact children_spares templates hh (modifyElement_spares h hnode _) hnode
  | .items templates, _, _, _, hh, h, _, _, hnode => children_spares templates hh h hnode
  | .node handle, _, _, _, hh, h, _, _, hnode =>
      appendChild_spares h hnode (hh handle (List.mem_singleton_self handle))

theorem children_spares : ∀ (items : List (Template NodeId)) {depth : Nat} {dom : Dom}
    {node : NodeId}, (∀ id ∈ Template.handlesOf items, id ∈ first.walk start → id = start) →
    SameTree start first dom → node ∉ first.walk start →
    (children config depth node items : Build Dom DomFault Unit).Ends dom
      fun _ after => SameTree start first after
  | [], _, _, _, _, h, _ => Ends.pure h
  | item :: rest, _, _, _, hh, h, hnode => by
      have hitem := fun id hid => hh id (List.mem_append_left _ hid)
      have hrest := fun id hid => hh id (List.mem_append_right _ hid)
      rw [children]
      refine (template_spares item hitem h).bind ?_ (fun _ _ hs => hs.1)
      rintro child _ ⟨hs, hroot⟩
      refine (appendChild_spares hs hnode (hroot child rfl)).bind ?_ (fun _ _ hs => hs)
      exact fun _ _ hs => children_spares rest hrest hs hnode

end

end Build

namespace Dom

variable {dom : Dom} {start : NodeId}

/-- Only what a template embeds below its root is moved by the build. -/
theorem SameTree.build (hf : dom.IsForest) (hl : dom.contains start) (config : BuildConfig)
    {template : Template NodeId}
    (h : ∀ id ∈ template.embedded, id ∈ dom.walk start → id = start) :
    SameTree start dom (template.build config dom).target := by
  cases template with
  | node handle => exact .refl hf hl
  | element text content =>
      exact (Build.template_spares config (.element text content) h (.refl hf hl) []).1

/-! ## Operations -/

/-- The operation does not reach into the tree of `start`, but it may move it as a whole. -/
def Operation.Spares (start : NodeId) (dom : Dom) : Operation → Prop
  | .insert _ | .create _ => True
  | .append parent child =>
    child = start ∨ (parent ∉ dom.walk start ∧ child ∉ dom.walk start)
  | .detach id => id = start ∨ id ∉ dom.walk start
  | .setText id _ | .remove id => id ∉ dom.walk start ∧ id ∉ dom.ancestors start
  | .edit id _ => id ∉ dom.walk start
  | .build _ template => ∀ id ∈ template.embedded, id ∈ dom.walk start → id = start

instance (start : NodeId) (dom : Dom) : DecidablePred (Operation.Spares start dom)
  | .insert _ | .create _ => inferInstanceAs (Decidable True)
  | .append .. => inferInstanceAs (Decidable (_ ∨ (_ ∧ _)))
  | .detach _ => inferInstanceAs (Decidable (_ ∨ _))
  | .setText .. | .remove _ => inferInstanceAs (Decidable (_ ∧ _))
  | .edit .. => inferInstanceAs (Decidable (¬ _))
  | .build _ template => inferInstanceAs (Decidable (∀ id ∈ template.embedded, _))

/-- Every operation spares the tree in the forest that it finds. -/
def SparedBy (start : NodeId) : Dom → List Operation → Prop
  | _, [] => True
  | dom, operation :: rest =>
    operation.Spares start dom ∧ SparedBy start (dom.apply operation) rest

instance decidableSparedBy (start : NodeId) :
    ∀ dom operations, Decidable (SparedBy start dom operations)
  | _, [] => inferInstanceAs (Decidable True)
  | dom, operation :: rest =>
    have := decidableSparedBy start (dom.apply operation) rest
    inferInstanceAs (Decidable (_ ∧ _))

theorem SameTree.apply (hf : dom.IsForest) (hl : dom.contains start) {operation : Operation}
    (h : operation.Spares start dom) : SameTree start dom (dom.apply operation) := by
  cases operation with
  | insert element => exact .insert hf hl element
  | create tag =>
      by_cases ht : isValidTagName tag
      · simpa [Dom.apply, createElement, ht] using SameTree.insert hf hl _
      · simpa [Dom.apply, createElement, ht] using SameTree.refl hf hl
  | append parent child =>
      cases ha : dom.appendChild parent child with
      | error fault => simpa [Dom.apply, ha] using SameTree.refl hf hl
      | ok after =>
          have hs : SameTree start dom after := by
            refine .appendChild hf hl ha (fun hne => ?_) (fun hm => ?_)
            · exact (h.resolve_left hne).1
            · exact h.resolve_right fun hout => hout.2 hm
          simpa [Dom.apply, ha] using hs
  | detach id => exact .detach hf hl fun hm => h.resolve_right (not_not.mpr hm)
  | setText id text =>
      cases ht : dom.setText id text with
      | error fault => simpa [Dom.apply, ht] using SameTree.refl hf hl
      | ok after => simpa [Dom.apply, ht] using SameTree.setText hf hl h.1 h.2 ht
  | remove id => exact .remove hf hl h.1 h.2
  | edit id change => exact .modifyElement hf hl h change
  | build config template => exact .build hf hl config h

theorem SameTree.applyAll (hf : dom.IsForest) (hl : dom.contains start)
    {operations : List Operation} (h : SparedBy start dom operations) :
    SameTree start dom (dom.applyAll operations) := by
  induction operations generalizing dom with
  | nil => exact .refl hf hl
  | cons operation rest ih =>
      have hs : SameTree start dom (dom.apply operation) := .apply hf hl h.1
      exact hs.trans (ih hs.isForest hs.live h.2)

/-- What is seen of a live node stays as it is in every history that spares its tree. -/
theorem seen_of_sparedBy (hdom : dom.Reachable) (hl : dom.contains start)
    {operations : List Operation} (h : SparedBy start dom operations) :
    let after := dom.applyAll operations
    after.contains start ∧ after.walk start = dom.walk start ∧
      after.html start = dom.html start ∧ after.innerHtml start = dom.innerHtml start ∧
      after.textContent start = dom.textContent start ∧
      ∀ selector, after.select start selector = dom.select start selector := by
  intro after
  have hf : dom.IsForest := hdom.isForest
  have hs : SameTree start dom after := .applyAll hf hl h
  have hstart := hf.mem_walk_self hl
  exact ⟨hs.live, hs.walk, hs.html_eq hf hstart, hs.innerHtml_eq hf hstart, hs.textContent_eq,
    hs.select_eq⟩

/-- An item with its link goes from one list to another one through a build that fails, while
its first list is emptied and goes. -/
theorem seen_linkList :
    let operations : List Operation := [.insert { tag := "nav" }, .append ⟨3⟩ ⟨2⟩, .detach ⟨2⟩,
      .setText ⟨0⟩ "empty", .append ⟨5⟩ ⟨2⟩, .edit ⟨5⟩ (·.withText "menu"), .remove ⟨0⟩,
      .build {} (.element "ul" (.items [.node ⟨2⟩, .element "a<b" (.items [])]))]
    let after := linkList.applyAll operations
    linkList.Reachable ∧ linkList.contains ⟨2⟩ ∧ SparedBy ⟨2⟩ linkList operations ∧
      linkList.parent? ⟨2⟩ = some ⟨0⟩ ∧ after.parent? ⟨2⟩ = some ⟨6⟩ ∧
      ¬ after.contains ⟨0⟩ ∧ after.html ⟨5⟩ = "<nav>menu</nav>" ∧
      after.html ⟨2⟩ = "<li><a></a></li>" ∧ after.walk ⟨2⟩ = [⟨2⟩, ⟨3⟩] ∧
      after.select ⟨2⟩ "a" = [⟨3⟩] := by
  intro operations after
  have hdom : linkList.Reachable := ⟨_, rfl⟩
  have hlive : linkList.contains ⟨2⟩ := by decide +kernel
  have hspared : SparedBy ⟨2⟩ linkList operations := by decide +kernel
  obtain ⟨-, hwalk, hhtml, -, -, hselect⟩ := seen_of_sparedBy hdom hlive hspared
  exact ⟨hdom, hlive, hspared, by decide +kernel, by decide +kernel, by decide +kernel,
    by decide +kernel, hhtml.trans (by decide +kernel), hwalk.trans (by decide +kernel),
    (hselect "a").trans (by decide +kernel)⟩

end Dom

end TemplateTree
