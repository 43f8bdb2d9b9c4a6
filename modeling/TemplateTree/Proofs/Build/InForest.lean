import TemplateTree.Proofs.Dom.Reachable
import TemplateTree.Proofs.Template.Meaning

/-! # Steps of a build in a forest

What each step leaves behind, exactly, when its node is live. -/

namespace TemplateTree.Build

variable {dom : Dom}

/-! ## Single steps -/

theorem step_endsIn {change : Dom → Except DomFault Dom} {after : Dom}
    (h : change dom = .ok after) : (act (Dom.step change)).EndsIn dom (.ok ()) after := by
  apply Ends.act
  rw [Dom.run_step_of_ok h]
  exact ⟨rfl, rfl⟩

theorem step_endsIn_error {change : Dom → Except DomFault Dom} {fault : DomFault}
    (h : change dom = .error fault) :
    (act (Dom.step change)).EndsIn dom (.error (.target fault)) dom := by
  apply Ends.act
  rw [Dom.run_step, h]
  exact ⟨rfl, rfl⟩

theorem setAttribute_endsIn {node : NodeId} (hl : dom.contains node) (name : String)
    (value : AttrValue) :
    (act (Target.setAttribute node name value) : Build Dom DomFault Unit).EndsIn dom (.ok ())
      (dom.modifyElement node (·.setAttributes [(name, value.display)])) := by
  have hs : dom.setAttribute node name value.display =
      .ok (dom.modifyElement node (·.setAttributes [(name, value.display)])) := if_pos hl
  show (act (Dom.step (·.setAttribute node name value.display))).EndsIn dom _ _
  exact step_endsIn hs

/-- Text for a node without children removes nothing. -/
theorem setText_endsIn {node : NodeId} (hl : dom.contains node) (hc : dom.children node = [])
    (text : String) :
    (act (Target.setText node text) : Build Dom DomFault Unit).EndsIn dom (.ok ())
      (dom.modifyElement node (·.withText text)) := by
  have hs : dom.setText node text = .ok (dom.modifyElement node (·.withText text)) := by
    simp [Dom.setText, hl, hc]
  show (act (Dom.step (·.setText node text))).EndsIn dom _ _
  exact step_endsIn hs

theorem setGiven_endsIn {node : NodeId} (hl : dom.contains node) (name : String)
    (value : Option String) :
    (setGiven node name value : Build Dom DomFault Unit).EndsIn dom (.ok ())
      (dom.modifyElement node
        (·.setAttributes (value.map fun text => (name, text)).toList)) := by
  cases value with
  | none => exact Ends.pure ⟨rfl, (dom.modifyElement_id node).symm⟩
  | some value => exact setAttribute_endsIn hl name (.text value)

theorem applyProperty_endsIn {node : NodeId} (hl : dom.contains node)
    (hc : dom.children node = []) (property : Property) :
    (applyProperty node property : Build Dom DomFault Unit).EndsIn dom (.ok ())
      (dom.modifyElement node property.applyTo) := by
  cases property with
  | attr name value => exact setAttribute_endsIn hl name value
  | html text => exact setText_endsIn hl hc text
  | style css => exact setAttribute_endsIn hl "style" (.text css)

theorem applyProperties_endsIn {node : NodeId} (hl : dom.contains node)
    (hc : dom.children node = []) (properties : List Property) :
    (properties.forM (applyProperty node) : Build Dom DomFault Unit).EndsIn dom (.ok ())
      (dom.modifyElement node (properties.foldl Property.applyTo)) := by
  induction properties generalizing dom with
  | nil => exact Ends.pure ⟨rfl, (dom.modifyElement_id node).symm⟩
  | cons property rest ih =>
      refine (applyProperty_endsIn hl hc property).bind_ok ?_
      have hr := ih ((dom.contains_modifyElement node property.applyTo node).trans hl) hc
      rwa [Dom.modifyElement_modifyElement] at hr

/-! ## New elements -/

/-- A started element is a new node with all that its selector gives. -/
theorem startElement_endsIn {config : BuildConfig} {depth : Nat} {text : String}
    (kind : ContentKind) (hd : depth < config.maxDepth)
    (ht : isValidTagName (Selector.parseWith config.defaultTag text).tag) :
    (startElement config depth text kind : Build Dom DomFault NodeId).EndsIn dom
      (.ok ⟨dom.issued⟩)
      (dom.insert (Selector.parseWith config.defaultTag text).element).2 := by
  refine startElement_of_created hd ((Dom.run_createElement dom _).trans (if_pos ht)) ?_
  refine (setGiven_endsIn (by simp) "class" _).bind_ok ?_
  refine (setGiven_endsIn (by simp) "id" _).bind_ok (Ends.pure ⟨rfl, ?_⟩)
  rw [Dom.modifyElement_insert, Dom.modifyElement_insert, ← Element.setAttributes_append]
  rfl

end TemplateTree.Build
