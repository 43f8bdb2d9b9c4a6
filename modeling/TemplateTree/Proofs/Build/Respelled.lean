import Mathlib.Logic.Relation
import TemplateTree.Build.CallLog
import TemplateTree.Dom.Target
import TemplateTree.Proofs.Build.Steps
import TemplateTree.Proofs.Template.Place

/-! # Children written in several ways

A list of templates and a bag without properties say the same, and a node says the same as a
list of just this node. A build does the same with all of them, on every target and up to every
fault. Only its events tell them apart, since they name the kind of a content. -/

namespace TemplateTree

variable {ν : Type}

/-! ## Ways to write children -/

/-- A content and another way to write it. -/
inductive Content.Respelled : Content ν → Content ν → Prop
  | items (templates : List (Template ν)) :
    Respelled (.items templates) (.bag { children := templates })
  | node (handle : ν) : Respelled (.node handle) (.items [.node handle])

/-- Templates that differ in how one of their contents is written. -/
inductive Template.Respelled : Template ν → Template ν → Prop
  | inside (place : Place ν) (selector : String) {content other : Content ν}
    (h : content.Respelled other) :
    Respelled (place.fill (.element selector content)) (place.fill (.element selector other))

mutual

/-- The template with all its children written in bags. -/
def Template.bagged : Template ν → Template ν
  | .element selector content => .element selector content.bagged
  | .node handle => .node handle

def Content.bagged : Content ν → Content ν
  | .text text => .text text
  | .bag ⟨properties, templates⟩ => .bag ⟨properties, Template.baggedAll templates⟩
  | .items templates => .bag ⟨[], Template.baggedAll templates⟩
  | .node handle => .bag ⟨[], [.node handle]⟩

def Template.baggedAll : List (Template ν) → List (Template ν)
  | [] => []
  | template :: rest => template.bagged :: Template.baggedAll rest

end

theorem Template.baggedAll_append (first second : List (Template ν)) :
    baggedAll (first ++ second) = baggedAll first ++ baggedAll second := by
  induction first with
  | nil => rfl
  | cons item rest ih => rw [List.cons_append, baggedAll, baggedAll, ih, List.cons_append]

theorem Content.Respelled.bagged_eq {content other : Content ν} (h : content.Respelled other) :
    content.bagged = other.bagged := by
  cases h with
  | items templates => rfl
  | node handle => rfl

theorem Place.bagged_fill {item other : Template ν} (h : item.bagged = other.bagged)
    (place : Place ν) : (place.fill item).bagged = (place.fill other).bagged := by
  induction place with
  | here => exact h
  | inBag _ _ before inner after ih | inItems _ before inner after ih =>
      simp only [fill, Template.bagged, Content.bagged, Template.baggedAll_append,
        Template.baggedAll, ih]

theorem Template.bagged_eq_of_respelled {template other : Template ν}
    (h : Relation.EqvGen Template.Respelled template other) : template.bagged = other.bagged := by
  induction h with
  | rel _ _ h =>
      obtain ⟨place, selector, h⟩ := h
      apply place.bagged_fill
      rw [bagged, bagged, h.bagged_eq]
  | refl _ => rfl
  | symm _ _ _ ih => exact ih.symm
  | trans _ _ _ _ _ first second => exact first.trans second

/-! ## Builds that do the same -/

namespace Build

variable {σ ε α β : Type}

/-- Whatever the events so far, both builds end in the same result and the same target. -/
def Alike (first second : Build σ ε α) : Prop :=
  ∀ target, ∃ result after, first.EndsIn target result after ∧ second.EndsIn target result after

namespace Alike

theorem pure (a : α) : Alike (Pure.pure a : Build σ ε α) (Pure.pure a) :=
  fun target => ⟨.ok a, target, .pure ⟨rfl, rfl⟩, .pure ⟨rfl, rfl⟩⟩

theorem act (step : Action σ ε α) : Alike (Build.act step) (Build.act step) :=
  fun _ => ⟨_, _, .act ⟨rfl, rfl⟩, .act ⟨rfl, rfl⟩⟩

theorem report (events other : List BuildEvent) :
    Alike (Build.report events : Build σ ε Unit) (Build.report other) :=
  fun target => ⟨_, _, .report events target, .report other target⟩

theorem bind {first second : Build σ ε α} {next next' : α → Build σ ε β} (h : Alike first second)
    (hn : ∀ a, Alike (next a) (next' a)) : Alike (first >>= next) (second >>= next') := by
  intro target
  obtain ⟨result, middle, hfirst, hsecond⟩ := h target
  cases result with
  | ok a =>
      obtain ⟨result, after, hnext, hnext'⟩ := hn a middle
      exact ⟨result, after, hfirst.bind_ok hnext, hsecond.bind_ok hnext'⟩
  | error fault =>
      exact ⟨.error fault, middle, hfirst.bind_error ⟨rfl, rfl⟩, hsecond.bind_error ⟨rfl, rfl⟩⟩

end Alike

variable [Target σ ν ε] (config : BuildConfig)

theorem checkDepth_alike (depth : Nat) :
    Alike (checkDepth config depth : Build σ ε Unit) (checkDepth config depth) := by
  intro target
  by_cases h : config.maxDepth ≤ depth
  · exact ⟨_, _, .checkDepth_error h target, .checkDepth_error h target⟩
  · have hlt : depth < config.maxDepth := Nat.lt_of_not_le h
    exact ⟨_, _, .checkDepth_ok hlt target, .checkDepth_ok hlt target⟩

theorem setGiven_alike (node : ν) (name : String) (value : Option String) :
    Alike (setGiven node name value : Build σ ε Unit) (setGiven node name value) := by
  cases value with
  | none => exact .pure ()
  | some value => exact .act _

/-- The kind of a content is reported and decides nothing. -/
theorem startElement_alike (depth : Nat) (text : String) (kind other : ContentKind) :
    Alike (startElement config depth text kind : Build σ ε ν)
      (startElement config depth text other) := by
  unfold startElement
  refine (checkDepth_alike config depth).bind fun _ => (Alike.report _ _).bind fun _ => ?_
  refine (Alike.act _).bind fun node => (setGiven_alike node "class" _).bind fun _ => ?_
  exact (setGiven_alike node "id" _).bind fun _ => .pure node

theorem applyProperties_alike (node : ν) (properties : List Property) :
    Alike (properties.forM (applyProperty node) : Build σ ε Unit)
      (properties.forM (applyProperty node)) := by
  induction properties with
  | nil => exact .pure ()
  | cons property rest ih =>
      refine .bind ?_ fun _ => ih
      cases property <;> exact .act _

theorem content_bag_nil (depth : Nat) (node : ν) (templates : List (Template ν)) :
    (content config depth node (.bag ⟨[], templates⟩) : Build σ ε Unit) =
      children config depth node templates := by
  rw [content]
  exact pure_bind () _

theorem children_node (depth : Nat) (node handle : ν) :
    (children config depth node [.node handle] : Build σ ε Unit) =
      act (Target.appendChild node handle) := by
  rw [children, template, pure_bind, children]
  exact bind_pure_unit

mutual

theorem template_bagged : ∀ (item : Template ν) (depth : Nat),
    Alike (template config depth item : Build σ ε ν) (template config depth item.bagged)
  | .node handle, _ => .pure handle
  | .element text value, depth => by
      rw [template, Template.bagged, template]
      refine (startElement_alike config depth text _ _).bind fun node => ?_
      exact (content_bagged value depth node).bind fun _ => .pure node

theorem content_bagged : ∀ (value : Content ν) (depth : Nat) (node : ν),
    Alike (content config depth node value : Build σ ε Unit)
      (content config depth node value.bagged)
  | .text _, _, _ => .act _
  | .bag ⟨properties, templates⟩, depth, node => by
      rw [content, Content.bagged, content]
      exact (applyProperties_alike node properties).bind fun _ =>
        children_bagged templates depth node
  | .items templates, depth, node => by
      rw [Content.bagged, content_bag_nil, content]
      exact children_bagged templates depth node
  | .node handle, depth, node => by
      rw [Content.bagged, content_bag_nil, children_node, content]
      exact .act _

theorem children_bagged : ∀ (items : List (Template ν)) (depth : Nat) (node : ν),
    Alike (children config depth node items : Build σ ε Unit)
      (children config depth node (Template.baggedAll items))
  | [], _, _ => .pure ()
  | item :: rest, depth, node => by
      rw [children, Template.baggedAll, children]
      refine (template_bagged item (depth + 1)).bind fun child => (Alike.act _).bind fun _ => ?_
      exact children_bagged rest depth node

end

end Build

namespace Template

variable {σ ε : Type} [Target σ ν ε]

theorem build_bagged (config : BuildConfig) (template : Template ν) (target : σ) :
    (template.build config target).result = (template.bagged.build config target).result ∧
      (template.build config target).target = (template.bagged.build config target).target := by
  obtain ⟨result, after, hfirst, hsecond⟩ := Build.template_bagged config template 0 target
  obtain ⟨hresult, hafter⟩ := hfirst []
  obtain ⟨hresult', hafter'⟩ := hsecond []
  exact ⟨hresult.trans hresult'.symm, hafter.trans hafter'.symm⟩

/-- Templates that differ in how children are written, in any number of places, are built alike
on every target: with the same result or the same fault, and the same steps on the way. -/
theorem build_respelled {template other : Template ν}
    (h : Relation.EqvGen Template.Respelled template other) (config : BuildConfig) (target : σ) :
    (template.build config target).result = (other.build config target).result ∧
      (template.build config target).target = (other.build config target).target := by
  obtain ⟨hresult, htarget⟩ := build_bagged config template target
  obtain ⟨hresult', htarget'⟩ := build_bagged config other target
  rw [bagged_eq_of_respelled h] at hresult htarget
  exact ⟨hresult.trans hresult'.symm, htarget.trans htarget'.symm⟩

/-- A bag without properties, with a node as the content of one of its children. -/
def tray (handle : ν) : Template ν :=
  .element "ul" (.bag { children := [.element "li" (.node handle), .element "b" (.text "x")] })

/-- The list of the same items, with the node in a bag. -/
def plainTray (handle : ν) : Template ν :=
  .element "ul" (.items [.element "li" (.bag { children := [.node handle] }),
    .element "b" (.text "x")])

theorem respelled_tray (handle : ν) :
    Relation.EqvGen Template.Respelled (tray handle) (plainTray handle) := by
  let place : Place ν := .inItems "ul" [] .here [.element "b" (.text "x")]
  refine .trans _ _ _ (.symm _ _ (.rel _ _ (.inside .here "ul" (.items _)))) ?_
  refine .trans _ _ _ (.rel _ _ (.inside place "li" (.node handle))) ?_
  exact .rel _ _ (.inside place "li" (.items [.node handle]))

theorem build_tray :
    let log : CallLog := { rejected := ["b"] }
    let dom := (Dom.empty.insert { tag := "p" }).2
    Relation.EqvGen Template.Respelled (tray 7) (plainTray 7) ∧
      Relation.EqvGen Template.Respelled (tray (⟨0⟩ : NodeId)) (plainTray ⟨0⟩) ∧
      ((tray 7).build {} log).result = .error (.target ⟨"b"⟩) ∧
      ((plainTray 7).build {} log).result = .error (.target ⟨"b"⟩) ∧
      ((tray 7).build {} log).target = ((plainTray 7).build {} log).target ∧
      ((tray ⟨0⟩).build {} dom).result = .ok ⟨1⟩ ∧ ((plainTray ⟨0⟩).build {} dom).result = .ok ⟨1⟩ ∧
      ((tray ⟨0⟩).build {} dom).target = ((plainTray ⟨0⟩).build {} dom).target := by
  intro log dom
  have hlog : ((tray 7).build {} log).result = .error (.target ⟨"b"⟩) := by decide +kernel
  have hdom : ((tray ⟨0⟩).build {} dom).result = .ok ⟨1⟩ := by decide +kernel
  obtain ⟨hresult, htarget⟩ := build_respelled (respelled_tray 7) {} log
  obtain ⟨hresult', htarget'⟩ := build_respelled (respelled_tray (⟨0⟩ : NodeId)) {} dom
  exact ⟨respelled_tray 7, respelled_tray _, hlog, hresult.symm.trans hlog, htarget, hdom,
    hresult'.symm.trans hdom, htarget'⟩

end Template

end TemplateTree
