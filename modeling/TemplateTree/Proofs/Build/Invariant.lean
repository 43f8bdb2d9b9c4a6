import TemplateTree.Proofs.Build.Steps

/-! # Invariants of builds

What every step on a target keeps, a build keeps too, also when it stops half-way. -/

namespace TemplateTree

variable {σ ν ε : Type} [Target σ ν ε]

/-- No step on a target breaks `inv`, whether it succeeds or fails. -/
structure Target.Keeps (σ : Type) {ν ε : Type} [Target σ ν ε] (inv : σ → Prop) : Prop where
  createElement : ∀ (target : σ) (tag : String), inv target →
    inv ((Target.createElement tag).run.run target).2
  setAttribute : ∀ (target : σ) (node : ν) (name : String) (value : AttrValue), inv target →
    inv ((Target.setAttribute node name value).run.run target).2
  setText : ∀ (target : σ) (node : ν) (text : String), inv target →
    inv ((Target.setText node text).run.run target).2
  appendChild : ∀ (target : σ) (parent child : ν), inv target →
    inv ((Target.appendChild parent child).run.run target).2

namespace Build

variable {inv : σ → Prop} {target : σ} {α β : Type}

/-- Both parts of a build keep `inv`. -/
private theorem bind_keeps {build : Build σ ε α} {next : α → Build σ ε β}
    (h : build.Ends target fun _ after => inv after)
    (hn : ∀ a after, inv after → (next a).Ends after fun _ after => inv after) :
    (build >>= next).Ends target fun _ after => inv after :=
  h.bind hn fun _ _ => id

theorem setGiven_keeps (hk : Target.Keeps σ inv) (ht : inv target) (node : ν) (name : String)
    (value : Option String) :
    (setGiven node name value).Ends target fun _ after => inv after := by
  cases value with
  | none => exact .pure ht
  | some value => exact .act (hk.setAttribute _ _ _ _ ht)

theorem startElement_keeps (hk : Target.Keeps σ inv) (ht : inv target) (config : BuildConfig)
    (depth : Nat) (text : String) (kind : ContentKind) :
    (startElement config depth text kind).Ends target fun _ after => inv after := by
  unfold startElement
  refine bind_keeps ?_ ?_
  · unfold checkDepth
    split
    · exact .throw ht
    · exact .pure ht
  · intro _ target ht
    refine bind_keeps (.report ht) ?_
    intro _ target ht
    refine bind_keeps (.act (hk.createElement _ _ ht)) ?_
    intro node target ht
    refine bind_keeps (setGiven_keeps hk ht node "class" _) ?_
    intro _ target ht
    refine bind_keeps (setGiven_keeps hk ht node "id" _) ?_
    intro _ target ht
    exact .pure ht

theorem applyProperty_keeps (hk : Target.Keeps σ inv) (ht : inv target) (node : ν)
    (property : Property) :
    (applyProperty node property).Ends target fun _ after => inv after := by
  cases property with
  | attr name value => exact .act (hk.setAttribute _ _ _ _ ht)
  | html text => exact .act (hk.setText _ _ _ ht)
  | style css => exact .act (hk.setAttribute _ _ _ _ ht)

theorem applyProperties_keeps (hk : Target.Keeps σ inv) (ht : inv target) (node : ν)
    (properties : List Property) :
    (properties.forM (applyProperty node)).Ends target fun _ after => inv after := by
  induction properties generalizing target with
  | nil => exact .pure ht
  | cons property rest ih =>
      exact bind_keeps (applyProperty_keeps hk ht node property) fun _ _ ht => ih ht

mutual

theorem template_keeps (hk : Target.Keeps σ inv) (config : BuildConfig) :
    ∀ (item : Template ν) {depth : Nat} {target : σ}, inv target →
      (template config depth item).Ends target fun _ after => inv after
  | .node _, _, _, ht => .pure ht
  | .element selector value, depth, _, ht => by
      rw [template]
      refine bind_keeps (startElement_keeps hk ht config depth selector value.kind) ?_
      intro node _ ht
      exact bind_keeps (content_keeps hk config value ht) fun _ _ ht => .pure ht

theorem content_keeps (hk : Target.Keeps σ inv) (config : BuildConfig) :
    ∀ (value : Content ν) {depth : Nat} {node : ν} {target : σ}, inv target →
      (content config depth node value).Ends target fun _ after => inv after
  | .text _, _, _, _, ht => .act (hk.setText _ _ _ ht)
  | .bag ⟨properties, templates⟩, _, node, _, ht => by
      rw [content]
      refine bind_keeps (applyProperties_keeps hk ht node properties) ?_
      exact fun _ _ ht => children_keeps hk config templates ht
  | .items templates, _, _, _, ht => children_keeps hk config templates ht
  | .node _, _, _, _, ht => .act (hk.appendChild _ _ _ ht)

theorem children_keeps (hk : Target.Keeps σ inv) (config : BuildConfig) :
    ∀ (items : List (Template ν)) {depth : Nat} {node : ν} {target : σ}, inv target →
      (children config depth node items).Ends target fun _ after => inv after
  | [], _, _, _, ht => .pure ht
  | item :: rest, _, node, _, ht => by
      rw [children]
      refine bind_keeps (template_keeps hk config item ht) ?_
      intro child _ ht
      exact bind_keeps (.act (hk.appendChild _ node child ht)) fun _ _ ht =>
        children_keeps hk config rest ht

end

end Build

/-- A build keeps what the steps on its target keep, however it ends. -/
theorem Template.build_keeps {inv : σ → Prop} (hk : Target.Keeps σ inv) (config : BuildConfig)
    (template : Template ν) {target : σ} (ht : inv target) :
    inv (template.build config target).target :=
  Build.template_keeps hk config template ht []

end TemplateTree
