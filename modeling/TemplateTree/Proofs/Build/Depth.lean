import Mathlib
import TemplateTree.Proofs.Build.Steps
import TemplateTree.Proofs.Template.Origin
import TemplateTree.Render

/-! # Depth of builds

A build that finds all elements above its limit never complains about depth. Templates that
come from a JSON text are that shallow, because reading the text has a limit of its own. -/

namespace TemplateTree

open Json

namespace Build

variable {σ ν ε α β : Type}

/-- The build does not end because of the depth of an element. -/
def StaysAbove (build : Build σ ε α) : Prop :=
  ∀ target, build.Ends target fun result _ => ∀ limit, result ≠ .error (.depthExceeded limit)

namespace StaysAbove

theorem pure (a : α) : (Pure.pure a : Build σ ε α).StaysAbove :=
  fun _ => .pure fun _ => nofun

theorem act (step : Action σ ε α) : (Build.act step).StaysAbove := by
  refine fun target => .act fun limit => ?_
  cases (step.run.run target).1 <;> nofun

theorem report (events : List BuildEvent) : (Build.report events : Build σ ε Unit).StaysAbove :=
  fun _ => .report fun _ => nofun

theorem bind {build : Build σ ε α} {next : α → Build σ ε β} (h : build.StaysAbove)
    (hn : ∀ a, (next a).StaysAbove) : (build >>= next).StaysAbove :=
  fun target => (h target).bind (fun a after _ => hn a after) fun _ _ hf limit hlimit =>
    hf limit (congrArg Except.error (Except.error.inj hlimit))

end StaysAbove

variable [Target σ ν ε]

theorem checkDepth_staysAbove {config : BuildConfig} {depth : Nat} (h : depth < config.maxDepth) :
    (checkDepth config depth : Build σ ε Unit).StaysAbove := by
  rw [checkDepth, if_neg (Nat.not_le.mpr h)]
  exact .pure ()

theorem setGiven_staysAbove (node : ν) (name : String) (value : Option String) :
    (setGiven node name value : Build σ ε Unit).StaysAbove := by
  cases value with
  | none => exact .pure ()
  | some value => exact .act _

theorem startElement_staysAbove {config : BuildConfig} {depth : Nat}
    (h : depth < config.maxDepth) (text : String) (kind : ContentKind) :
    (startElement config depth text kind : Build σ ε ν).StaysAbove := by
  unfold startElement
  refine (checkDepth_staysAbove h).bind fun _ => (StaysAbove.report _).bind fun _ => ?_
  refine (StaysAbove.act _).bind fun node => (setGiven_staysAbove node "class" _).bind fun _ => ?_
  exact (setGiven_staysAbove node "id" _).bind fun _ => .pure node

theorem applyProperties_staysAbove (node : ν) (properties : List Property) :
    (properties.forM (applyProperty node) : Build σ ε Unit).StaysAbove := by
  induction properties with
  | nil => exact .pure ()
  | cons property rest ih =>
      refine .bind ?_ fun _ => ih
      cases property <;> exact .act _

mutual

theorem template_staysAbove (config : BuildConfig) : ∀ (item : Template ν) {depth : Nat},
    (∀ element ∈ item.occurrences depth, element.depth < config.maxDepth) →
      (template config depth item : Build σ ε ν).StaysAbove
  | .node handle, _, _ => .pure handle
  | .element selector value, depth, h => by
      obtain ⟨hd, hc⟩ := List.forall_mem_cons.mp h
      rw [template]
      refine (startElement_staysAbove hd selector value.kind).bind fun node => ?_
      exact (content_staysAbove config value node hc).bind fun _ => .pure node

theorem content_staysAbove (config : BuildConfig) : ∀ (value : Content ν) (node : ν) {depth : Nat},
    (∀ element ∈ value.occurrences (depth + 1), element.depth < config.maxDepth) →
      (content config depth node value : Build σ ε Unit).StaysAbove
  | .text _, _, _, _ => .act _
  | .bag ⟨properties, templates⟩, node, _, h => by
      rw [content]
      refine (applyProperties_staysAbove node properties).bind fun _ => ?_
      exact children_staysAbove config templates node h
  | .items templates, node, _, h => children_staysAbove config templates node h
  | .node _, _, _, _ => .act _

theorem children_staysAbove (config : BuildConfig) :
    ∀ (items : List (Template ν)) (node : ν) {depth : Nat},
      (∀ element ∈ Template.occurrencesOf (depth + 1) items, element.depth < config.maxDepth) →
        (children config depth node items : Build σ ε Unit).StaysAbove
  | [], _, _, _ => .pure ()
  | item :: rest, node, _, h => by
      obtain ⟨hi, hr⟩ := List.forall_mem_append.mp h
      rw [children]
      refine (template_staysAbove config item hi).bind fun child => ?_
      exact (StaysAbove.act _).bind fun _ => children_staysAbove config rest node hr

end

end Build

section

variable {σ ν ε : Type} [Target σ ν ε] {config : BuildConfig} {value : Json}

theorem Template.build_staysAbove {template : Template ν}
    (h : ∀ element ∈ template.occurrences 0, element.depth < config.maxDepth) (target : σ)
    (limit : Nat) : (template.build config target).result ≠ .error (.depthExceeded limit) :=
  Build.template_staysAbove config template h target [] limit

/-- Elements are found in as many containers as they have levels, and a value has few. -/
theorem Template.depth_lt_of_nestsWithin {template : Template ν} {limit : Nat}
    (hn : value.NestsWithin limit) (h : ofJson value = .ok template) :
    ∀ element ∈ template.occurrences 0, element.depth < limit := by
  obtain ⟨found, he, -, hf⟩ := occurrences_found h
  intro element hm
  rw [← he, List.mem_map] at hm
  obtain ⟨entry, hm, rfl⟩ := hm
  obtain ⟨hd, content, hat, -⟩ := hf entry hm
  have hp : entry.2.length ≤ limit := length_le_of_at? hn hat
  omega

theorem buildJson_staysAbove (hn : value.NestsWithin nestingLimit)
    (hc : nestingLimit ≤ config.maxDepth) (target : σ) (limit : Nat) :
    (buildJson config value target).result ≠ .error (.depthExceeded limit) := by
  unfold buildJson
  cases h : (Template.ofJson value : Except TemplateFault (Template ν)) with
  | error fault => nofun
  | ok template =>
      refine template.build_staysAbove (fun element hm => ?_) target limit
      exact Nat.lt_of_lt_of_le (Template.depth_lt_of_nestsWithin hn h element hm) hc

end

theorem BuildOutcome.html_ne_error {outcome : BuildOutcome Dom NodeId DomFault}
    {fault : BuildFault DomFault} (h : outcome.result ≠ .error fault) :
    outcome.html ≠ .error fault := by
  unfold BuildOutcome.html
  cases hr : outcome.result with
  | ok root => nofun
  | error other =>
      intro he
      exact h (hr.trans (congrArg Except.error (Except.error.inj he)))

theorem renderText_staysAbove (text : String) (limit : Nat) :
    renderText text ≠ .error (.depthExceeded limit) := by
  apply BuildOutcome.html_ne_error
  unfold buildText
  cases h : parse text with
  | error error => nofun
  | ok value => exact buildJson_staysAbove (nestsWithin_of_parse h) (by decide) Dom.empty limit

/-- No text leads a build to its depth limit, on any target. A text nests at most 127
containers, and an element at some depth lies in more containers than that: it comes from an
entry of its own, whose place has a step for every container around it. -/
theorem depth_limit_unreachable :
    (∀ (text : String) (value : Json), parse text = .ok value → value.NestsWithin 127) ∧
    (∀ {σ ν ε : Type} [Target σ ν ε] (text : String) (value : Json) (config : BuildConfig)
      (target : σ), parse text = .ok value → 127 ≤ config.maxDepth →
        ∀ limit, (buildJson config value target).result ≠ .error (.depthExceeded limit)) ∧
    (∀ {ν : Type} (value : Json) (template : Template ν), Template.ofJson value = .ok template →
      ∃ found : List (Occurrence ν × List Nat), found.map Prod.fst = template.occurrences 0 ∧
        found.Pairwise (·.2 < ·.2) ∧ ∀ entry ∈ found, entry.1.depth + 1 ≤ entry.2.length ∧
          ∃ content, Entry.at? ⟨none, value⟩ entry.2 = some ⟨some entry.1.selector, content⟩ ∧
            Content.ofJson entry.1.selector content = .ok entry.1.content) ∧
    ∀ text limit, renderText text ≠ .error (.depthExceeded limit) := by
  refine ⟨fun _ _ => nestsWithin_of_parse, ?_, ?_, renderText_staysAbove⟩
  · intro σ ν ε _ text value config target hp hc
    exact buildJson_staysAbove (nestsWithin_of_parse hp) hc target
  · intro ν value template h
    obtain ⟨found, he, ho, hf⟩ := Template.occurrences_found h
    refine ⟨found, he, ho, fun entry hm => ⟨?_, (hf entry hm).entry⟩⟩
    have hd := (hf entry hm).depth_lt
    omega

/-- An item of a list lies in two more containers than its list, and an item under the key
`children` in three more; a child with its selector as key lies in one more. -/
def nestedList : Json :=
  .object [("ol", .array [.object [("li", .object [("b", .object []),
    ("children", .array [.object [("i", .string "x")]])])]])]

set_option maxRecDepth 4000 in
theorem nestedList_within_limit :
    let text := "\x7b\"ol\":[\x7b\"li\":\x7b\"b\":\x7b\x7d," ++
      "\"children\":[\x7b\"i\":\"x\"\x7d]\x7d\x7d]\x7d"
    parse text = .ok nestedList ∧ nestedList.NestsWithin 127 ∧
      (buildJson { maxDepth := 127 } nestedList Dom.empty).result ≠ .error (.depthExceeded 127) ∧
      ∃ (template : Template NodeId) (found : List (Occurrence NodeId × List Nat)),
        Template.ofJson nestedList = .ok template ∧ found.map Prod.fst = template.occurrences 0 ∧
          found.map (·.1.depth) = [0, 1, 2, 2] ∧
          ∀ entry ∈ found, entry.1.depth + 1 ≤ entry.2.length := by
  intro text
  have hparse : parse text = .ok nestedList := by cbv
  obtain ⟨hnests, hbuild, hfound, -⟩ := depth_limit_unreachable
  let template : Template NodeId := .element "ol" (.items [.element "li" (.bag ⟨[],
    [.element "b" (.bag {}), .element "i" (.text "x")]⟩)])
  have htemplate : Template.ofJson nestedList = .ok template := rfl
  obtain ⟨found, he, -, hf⟩ := hfound nestedList template htemplate
  refine ⟨hparse, hnests text nestedList hparse,
    hbuild text nestedList _ Dom.empty hparse (Nat.le_refl 127) 127, template, found, htemplate,
    he, ?_, fun entry hm => (hf entry hm).1⟩
  have hdepths : (found.map Prod.fst).map Occurrence.depth = [0, 1, 2, 2] := by
    rw [he]
    rfl
  rwa [List.map_map] at hdepths

end TemplateTree
