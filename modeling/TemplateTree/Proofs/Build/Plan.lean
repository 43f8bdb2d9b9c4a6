import TemplateTree.Proofs.Build.Script
import TemplateTree.Proofs.Template.Expressible

/-! # Plans

The elements of a template with the numbers that they get, each above the elements among its
items. On a log a template without existing nodes is built as its plan says. -/

namespace TemplateTree

/-- The call for a property. -/
def Property.call (node : Nat) : Property → Call
  | .attr name value => .setAttribute node name value.display
  | .html text => .setText node text
  | .style css => .setAttribute node "style" css

/-- Whether a call gives a node an attribute or a text. -/
def Call.writesTo (node : Nat) : Call → Bool
  | .setAttribute other _ _ => other == node
  | .setText other _ => other == node
  | _ => false

/-- An element with its number, and the elements among its items in order. -/
inductive Plan where
  | element (number : Nat) (selector : Selector) (properties : List Property)
    (items : List Plan)

namespace Plan

@[elab_as_elim]
theorem induction {motive : Plan → Prop}
    (element : ∀ number selector properties items, (∀ item ∈ items, motive item) →
      motive (.element number selector properties items)) : ∀ plan, motive plan
  | .element number selector properties items =>
      element number selector properties items fun item _ => induction element item

def number : Plan → Nat
  | .element number _ _ _ => number

def items : Plan → List Plan
  | .element _ _ _ items => items

/-- What a plan says of its first element alone. -/
def own : Plan → Nat × Selector × List Property
  | .element number selector properties _ => (number, selector, properties)

/-- The creation of the element. -/
def create : Plan → Call
  | .element number selector _ _ => .create number selector.tag

/-- What is written to the element: its class, its id, and then its properties. -/
def writes : Plan → List Call
  | .element number selector properties _ =>
    selector.writes.map (fun (name, value) => .setAttribute number name value) ++
      properties.map (·.call number)

mutual

/-- An element and all below it, in document order. -/
def elements : Plan → List Plan
  | .element number selector properties items =>
    .element number selector properties items :: elementsOf items

def elementsOf : List Plan → List Plan
  | [] => []
  | item :: rest => item.elements ++ elementsOf rest

end

/-- The numbers of an element and of all below it, in document order. -/
def numbers (plan : Plan) : List Nat :=
  plan.elements.map number

mutual

/-- The calls for an element. An item is finished before it is appended, and appended before the
next one is begun. -/
def calls : Plan → List Call
  | .element number selector properties items =>
    create (.element number selector properties items) ::
      (writes (.element number selector properties items) ++ callsOf number items)

def callsOf (parent : Nat) : List Plan → List Call
  | [] => []
  | item :: rest => item.calls ++ .append parent item.number :: callsOf parent rest

end

theorem elementsOf_eq_flatMap (plans : List Plan) : elementsOf plans = plans.flatMap elements := by
  induction plans with
  | nil => rfl
  | cons plan rest ih => rw [elementsOf, ih, List.flatMap_cons]

theorem elements_eq (plan : Plan) : plan.elements = plan :: plan.items.flatMap elements := by
  cases plan with
  | element number selector properties items => rw [elements, elementsOf_eq_flatMap, Plan.items]

theorem numbers_eq (plan : Plan) : plan.numbers = plan.number :: plan.items.flatMap numbers := by
  rw [numbers, elements_eq, List.map_cons, List.map_flatMap]
  rfl

theorem calls_eq (plan : Plan) :
    plan.calls = plan.create :: (plan.writes ++ callsOf plan.number plan.items) := by
  cases plan
  rfl

theorem callsOf_append (parent : Nat) (first second : List Plan) :
    callsOf parent (first ++ second) = callsOf parent first ++ callsOf parent second := by
  induction first with
  | nil => rfl
  | cons item rest ih => rw [List.cons_append, callsOf, callsOf, ih, List.append_assoc]; rfl

theorem writesTo_of_mem_writes {plan : Plan} {call : Call} (h : call ∈ plan.writes) :
    call.writesTo plan.number := by
  cases plan with
  | element number selector properties items =>
      rcases List.mem_append.mp h with h | h
      · obtain ⟨write, -, rfl⟩ := List.mem_map.mp h
        exact beq_self_eq_true number
      · obtain ⟨property, -, rfl⟩ := List.mem_map.mp h
        cases property <;> exact beq_self_eq_true number

/-- The elements are created in document order. -/
theorem filter_isCreate_calls (plan : Plan) :
    plan.calls.filter Call.isCreate = plan.elements.map create := by
  induction plan using Plan.induction with
  | element number selector properties items ih =>
      have hwrites : (writes (.element number selector properties items)).filter Call.isCreate =
          [] := by
        rw [List.filter_eq_nil_iff]
        intro call hc
        have hw := writesTo_of_mem_writes hc
        cases call <;> simp_all [Call.writesTo, Call.isCreate]
      have hitems : ∀ list ⊆ items, (callsOf number list).filter Call.isCreate =
          (list.flatMap elements).map create := by
        intro list hsub
        induction list with
        | nil => rfl
        | cons item rest ihrest =>
            obtain ⟨hitem, hrest⟩ := List.cons_subset.mp hsub
            rw [callsOf, List.filter_append, ih item hitem,
              List.filter_cons_of_neg (by simp [Call.isCreate]), ihrest hrest, List.flatMap_cons,
              List.map_append]
      rw [calls, List.filter_cons_of_pos rfl, List.filter_append, hwrites,
        hitems items (List.Subset.refl _), elements_eq]
      rfl

end Plan

/-! ## Plans of templates -/

section

variable {ν : Type}

/-- The properties of a content; a text is set as `html` is. -/
def Content.properties : Content ν → List Property
  | .text value => [.html value]
  | .bag ⟨properties, _⟩ => properties
  | _ => []

mutual

/-- The plan of a template whose first element gets the number `next`. -/
def Template.plan? (defaultTag : String) (next : Nat) : Template ν → Option Plan
  | .element text content =>
    some (.element next (Selector.parseWith defaultTag text) content.properties
      (content.plans defaultTag (next + 1)))
  | .node _ => none

def Content.plans (defaultTag : String) (next : Nat) : Content ν → List Plan
  | .text _ => []
  | .bag ⟨_, templates⟩ => Template.plansOf defaultTag next templates
  | .items templates => Template.plansOf defaultTag next templates
  | .node _ => []

/-- The plans of templates whose elements get consecutive numbers. -/
def Template.plansOf (defaultTag : String) (next : Nat) : List (Template ν) → List Plan
  | [] => []
  | template :: rest =>
    (template.plan? defaultTag next).toList ++
      Template.plansOf defaultTag (next + template.count) rest

end

/-- What a plan says of an element with a number. -/
def Occurrence.planned (defaultTag : String) : Occurrence ν × Nat → Nat × Selector × List Property
  | (element, number) =>
    (number, Selector.parseWith defaultTag element.selector, element.content.properties)

mutual

/-- A plan has the elements of its template, with consecutive numbers in document order. -/
theorem Template.elements_plan? (defaultTag : String) : ∀ (template : Template ν)
    (depth next : Nat),
    ((template.plan? defaultTag next).toList.flatMap Plan.elements).map Plan.own =
      ((template.occurrences depth).zipIdx next).map (Occurrence.planned defaultTag)
  | .element _ content, depth, next => by
      rw [Template.plan?, Option.toList_some, List.flatMap_singleton, Plan.elements_eq,
        List.map_cons, Template.occurrences, List.zipIdx_cons, List.map_cons]
      exact congrArg (List.cons _) (Content.elements_plans defaultTag content (depth + 1) (next + 1))
  | .node _, _, _ => rfl

theorem Content.elements_plans (defaultTag : String) : ∀ (content : Content ν) (depth next : Nat),
    ((content.plans defaultTag next).flatMap Plan.elements).map Plan.own =
      ((content.occurrences depth).zipIdx next).map (Occurrence.planned defaultTag)
  | .text _, _, _ => rfl
  | .bag ⟨_, templates⟩, depth, next => Template.elements_plansOf defaultTag templates depth next
  | .items templates, depth, next => Template.elements_plansOf defaultTag templates depth next
  | .node _, _, _ => rfl

theorem Template.elements_plansOf (defaultTag : String) : ∀ (templates : List (Template ν))
    (depth next : Nat),
    ((Template.plansOf defaultTag next templates).flatMap Plan.elements).map Plan.own =
      ((Template.occurrencesOf depth templates).zipIdx next).map (Occurrence.planned defaultTag)
  | [], _, _ => rfl
  | template :: rest, depth, next => by
      rw [Template.plansOf, Template.occurrencesOf, List.flatMap_append, List.map_append,
        List.zipIdx_append, List.map_append, Template.elements_plan? defaultTag template depth,
        Template.elements_plansOf defaultTag rest depth, Template.length_occurrences]

end

theorem Template.number_of_plan? {template : Template ν} {defaultTag : String} {next : Nat}
    {plan : Plan} (h : template.plan? defaultTag next = some plan) : plan.number = next := by
  cases template with
  | element text content => exact Option.some.inj h ▸ rfl
  | node handle => cases h

theorem Template.numbers_of_plan? {template : Template ν} {defaultTag : String} {next : Nat}
    {plan : Plan} (h : template.plan? defaultTag next = some plan) :
    plan.numbers = List.range' next template.count := by
  have helements := template.elements_plan? defaultTag 0 next
  rw [h, Option.toList_some, List.flatMap_singleton] at helements
  have hnumber : Plan.number = Prod.fst ∘ Plan.own := funext fun | .element .. => rfl
  calc plan.numbers
      = (plan.elements.map Plan.own).map Prod.fst := by rw [Plan.numbers, hnumber, List.map_map]
    _ = ((template.occurrences 0).zipIdx next).map Prod.snd := by
        rw [helements, List.map_map]
        rfl
    _ = List.range' next template.count := by
        rw [List.zipIdx_map_snd, template.length_occurrences]

end

/-! ## Calls of templates -/

theorem Property.call_directive (node next : Nat) (property : Property) :
    (property.directive node).call next = property.call node := by
  cases property <;> rfl

namespace Directive

/-- Steps that make no element become calls one by one. -/
theorem calls_map {α : Type} (list : List α) (directive : α → Directive) (call : α → Call)
    (next : Nat) (hmade : ∀ a, (directive a).site? = none)
    (hcall : ∀ a, (directive a).call next = call a) :
    calls next (list.map directive) = list.map call := by
  induction list with
  | nil => rfl
  | cons a rest ih =>
      have hnext : (directive a).advance next = next := by rw [advance_eq, hmade]; rfl
      rw [List.map_cons, calls, hnext, ih, hcall, List.map_cons]

theorem calls_properties (node next : Nat) (properties : List Property) :
    calls next (properties.map (·.directive node)) = properties.map (·.call node) :=
  calls_map properties _ _ next (fun property => by cases property <;> rfl)
    fun property => property.call_directive node next

theorem calls_writes (node next : Nat) (writes : List (String × String)) :
    calls next (writes.map fun (name, value) => .setAttribute node name value) =
      writes.map fun (name, value) => .setAttribute node name value :=
  calls_map writes _ _ next (fun _ => rfl) fun _ => rfl

end Directive

mutual

/-- A script without existing nodes calls for what the plan says. -/
theorem Template.calls_script (defaultTag : String) : ∀ (template : Template Nat)
    (depth next : Nat), template.handles = [] → ∃ plan, template.plan? defaultTag next = some plan ∧
      plan.number = template.root next ∧
      Directive.calls next (template.script defaultTag depth next) = plan.calls
  | .element text content, depth, next, h => by
      refine ⟨_, rfl, rfl, ?_⟩
      have hc := Content.calls_script defaultTag content (depth + 1) next (next + 1) h
      rw [Template.script, Directive.calls, Directive.advance, Directive.calls_append,
        Directive.made_setAttributes, Directive.calls_writes, List.length_nil, Nat.add_zero, hc,
        Plan.calls_eq, Plan.writes, List.append_assoc]
      rfl
  | .node _, _, _, h => by cases h

theorem Content.calls_script (defaultTag : String) : ∀ (content : Content Nat)
    (depth node next : Nat), content.handles = [] →
    Directive.calls next (content.script defaultTag depth node next) =
      content.properties.map (·.call node) ++ Plan.callsOf node (content.plans defaultTag next)
  | .text _, _, _, _, _ => rfl
  | .bag ⟨properties, templates⟩, depth, node, next, h => by
      rw [Content.script, Directive.calls_append, Directive.made_properties,
        Directive.calls_properties]
      exact congrArg _ (Template.calls_scriptOf defaultTag templates depth node next h)
  | .items templates, depth, node, next, h =>
      Template.calls_scriptOf defaultTag templates depth node next h
  | .node _, _, _, _, h => by cases h

theorem Template.calls_scriptOf (defaultTag : String) : ∀ (templates : List (Template Nat))
    (depth parent next : Nat), Template.handlesOf templates = [] →
    Directive.calls next (Template.scriptOf defaultTag depth parent next templates) =
      Plan.callsOf parent (Template.plansOf defaultTag next templates)
  | [], _, _, _, _ => rfl
  | template :: rest, depth, parent, next, h => by
      rw [Template.handlesOf, List.append_eq_nil_iff] at h
      obtain ⟨plan, hplan, hroot, hcalls⟩ :=
        Template.calls_script defaultTag template depth next h.1
      rw [Template.scriptOf, Directive.calls_append, Directive.calls, hcalls,
        Template.length_made_script, Template.plansOf, hplan, Option.toList_some,
        List.singleton_append, Plan.callsOf, hroot,
        ← Template.calls_scriptOf defaultTag rest depth parent _ h.2]
      rfl

end

end TemplateTree
