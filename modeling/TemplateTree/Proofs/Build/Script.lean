import TemplateTree.Build.CallLog
import TemplateTree.Proofs.Template.Occurrences

/-! # Scripts of templates

What building a template does, as plain data in order. An element gets the next free number,
so a script names its nodes from the number at which it starts. -/

namespace TemplateTree

/-! ## Sites -/

/-- An element of a template: how many elements it lies in, and its tag. -/
structure Site where
  depth : Nat
  tag : String
deriving DecidableEq, Repr

def Occurrence.site {ν : Type} (defaultTag : String) (element : Occurrence ν) : Site :=
  ⟨element.depth, (Selector.parseWith defaultTag element.selector).tag⟩

/-- The elements of a template at this depth, in document order. -/
def Template.sites {ν : Type} (defaultTag : String) (depth : Nat) (template : Template ν) :
    List Site :=
  (template.occurrences depth).map (·.site defaultTag)

/-! ## Directives -/

def Call.isCreate : Call → Bool
  | .create _ _ => true
  | _ => false

/-- One step of a script; the number of a new element follows from the steps before it. -/
inductive Directive where
  | make (site : Site)
  | setAttribute (node : Nat) (name value : String)
  | setText (node : Nat) (text : String)
  | append (parent child : Nat)

namespace Directive

def site? : Directive → Option Site
  | make site => some site
  | _ => none

/-- The elements that a script makes. -/
def made (script : List Directive) : List Site :=
  script.filterMap site?

/-- The call for a directive when the next element gets the number `next`. -/
def call (next : Nat) : Directive → Call
  | make site => .create next site.tag
  | setAttribute node name value => .setAttribute node name value
  | setText node text => .setText node text
  | append parent child => .append parent child

/-- The number that the next element gets after a directive. -/
def advance (next : Nat) : Directive → Nat
  | make _ => next + 1
  | _ => next

def calls (next : Nat) : List Directive → List Call
  | [] => []
  | directive :: rest => directive.call next :: calls (directive.advance next) rest

@[simp] theorem made_append (first second : List Directive) :
    made (first ++ second) = made first ++ made second :=
  List.filterMap_append

theorem made_cons (directive : Directive) (script : List Directive) :
    made (directive :: script) = directive.site?.toList ++ made script := by
  cases directive <;> rfl

theorem made_setAttributes (node : Nat) (writes : List (String × String)) :
    made (writes.map fun (name, value) => .setAttribute node name value) = [] := by
  simp [made, site?]

theorem advance_eq (next : Nat) (directive : Directive) :
    directive.advance next = next + directive.site?.toList.length := by
  cases directive <;> rfl

theorem calls_append (next : Nat) (first second : List Directive) :
    calls next (first ++ second) =
      calls next first ++ calls (next + (made first).length) second := by
  induction first generalizing next with
  | nil => rfl
  | cons directive rest ih =>
      rw [List.cons_append, calls, ih, calls, made_cons, List.length_append, advance_eq,
        Nat.add_assoc, List.cons_append]

/-- A script creates its elements in order, under consecutive numbers. -/
theorem filter_isCreate_calls (next : Nat) (script : List Directive) :
    (calls next script).filter Call.isCreate =
      ((made script).zipIdx next).map fun (site, number) => .create number site.tag := by
  induction script generalizing next with
  | nil => rfl
  | cons directive rest ih =>
      rw [calls, made_cons]
      cases directive with
      | make site => exact congrArg (.create next site.tag :: ·) (ih (next + 1))
      | setAttribute node name value => exact ih next
      | setText node text => exact ih next
      | append parent child => exact ih next

end Directive

/-! ## Scripts -/

def Property.directive (node : Nat) : Property → Directive
  | .attr name value => .setAttribute node name value.display
  | .html text => .setText node text
  | .style css => .setAttribute node "style" css

theorem Directive.made_properties (node : Nat) (properties : List Property) :
    Directive.made (properties.map (·.directive node)) = [] := by
  rw [Directive.made, List.filterMap_map, List.filterMap_eq_nil_iff]
  rintro (_ | _ | _) - <;> rfl

/-- The number of the root of a template that is built when `next` is the next number. -/
def Template.root (next : Nat) : Template Nat → Nat
  | .element _ _ => next
  | .node handle => handle

mutual

/-- What is done for a template at this depth, from the number `next` on. -/
def Template.script (defaultTag : String) (depth next : Nat) : Template Nat → List Directive
  | .element text content =>
    let selector := Selector.parseWith defaultTag text
    .make ⟨depth, selector.tag⟩ ::
      (selector.writes.map (fun (name, value) => .setAttribute next name value) ++
        content.script defaultTag (depth + 1) next (next + 1))
  | .node _ => []

/-- What is done for a content of `node` whose templates are at this depth. -/
def Content.script (defaultTag : String) (depth node next : Nat) :
    Content Nat → List Directive
  | .text text => [.setText node text]
  | .bag ⟨properties, templates⟩ =>
    properties.map (·.directive node) ++ Template.scriptOf defaultTag depth node next templates
  | .items templates => Template.scriptOf defaultTag depth node next templates
  | .node handle => [.append node handle]

/-- Each template is finished before it is appended, and appended before the next one. -/
def Template.scriptOf (defaultTag : String) (depth parent next : Nat) :
    List (Template Nat) → List Directive
  | [] => []
  | template :: rest =>
    let first := template.script defaultTag depth next
    first ++ .append parent (template.root next) ::
      Template.scriptOf defaultTag depth parent (next + (Directive.made first).length) rest

end

/-! ## Elements in scripts -/

namespace Directive

/-- A script that makes these elements one after the other. What an element gets from its selector
is written to it at once, and between such openings there may be other steps. -/
inductive Opens (defaultTag : String) : Nat → List Directive → List (Occurrence Nat) → Prop
  | nil (next : Nat) : Opens defaultTag next [] []
  | make {next : Nat} {rest : List Directive} {elements : List (Occurrence Nat)}
    (element : Occurrence Nat) (behind : Opens defaultTag (next + 1) rest elements) :
    Opens defaultTag next
      (.make (element.site defaultTag) ::
        ((Selector.parseWith defaultTag element.selector).writes.map
          (fun (name, value) => .setAttribute next name value) ++ rest))
      (element :: elements)
  | other {next : Nat} {directive : Directive} {rest : List Directive}
    {elements : List (Occurrence Nat)} (quiet : directive.site? = none)
    (behind : Opens defaultTag next rest elements) :
    Opens defaultTag next (directive :: rest) elements

namespace Opens

variable {defaultTag : String} {next : Nat} {script rest : List Directive}
  {elements others : List (Occurrence Nat)}

theorem made_eq (h : Opens defaultTag next script elements) :
    made script = elements.map (·.site defaultTag) := by
  induction h with
  | nil _ => rfl
  | make element _ ih =>
      rw [made_cons, made_append, made_setAttributes, ih]
      rfl
  | other quiet _ ih => rw [made_cons, quiet, ih]; rfl

theorem append (h : Opens defaultTag next script elements)
    (hr : Opens defaultTag (next + elements.length) rest others) :
    Opens defaultTag next (script ++ rest) (elements ++ others) := by
  induction h with
  | nil next => exact hr
  | make element _ ih =>
      rw [List.cons_append, List.append_assoc]
      refine .make element (ih ?_)
      rwa [Nat.add_right_comm]
  | other quiet _ ih => exact .other quiet (ih hr)

theorem of_quiet (h : ∀ directive ∈ script, directive.site? = none) (next : Nat) :
    Opens defaultTag next script [] := by
  induction script with
  | nil => exact .nil next
  | cons directive rest ih =>
      rw [List.forall_mem_cons] at h
      exact .other h.1 (ih h.2)

theorem opening (element : Occurrence Nat) (next : Nat) :
    Opens defaultTag next
      (.make (element.site defaultTag) ::
        (Selector.parseWith defaultTag element.selector).writes.map
          fun (name, value) => .setAttribute next name value) [element] := by
  rw [← List.append_nil (List.map _ _)]
  exact .make element (.nil _)

theorem properties (node next : Nat) (properties : List Property) :
    Opens defaultTag next (properties.map (·.directive node)) [] := by
  apply of_quiet
  rw [List.forall_mem_map]
  rintro (_ | _ | _) - <;> rfl

end Opens

end Directive

section

open Directive

mutual

theorem Template.opens_script (defaultTag : String) : ∀ (template : Template Nat)
    (depth next : Nat),
    Opens defaultTag next (template.script defaultTag depth next) (template.occurrences depth)
  | .element text content, depth, next =>
      .make ⟨depth, text, content⟩
        (Content.opens_script defaultTag content (depth + 1) next (next + 1))
  | .node _, _, next => .nil next

theorem Content.opens_script (defaultTag : String) : ∀ (content : Content Nat)
    (depth node next : Nat),
    Opens defaultTag next (content.script defaultTag depth node next) (content.occurrences depth)
  | .text _, _, _, next => .other rfl (.nil next)
  | .bag ⟨properties, templates⟩, depth, node, next =>
      (Opens.properties node next properties).append
        (Template.opens_scriptOf defaultTag templates depth node next)
  | .items templates, depth, node, next =>
      Template.opens_scriptOf defaultTag templates depth node next
  | .node _, _, _, next => .other rfl (.nil next)

theorem Template.opens_scriptOf (defaultTag : String) : ∀ (templates : List (Template Nat))
    (depth parent next : Nat),
    Opens defaultTag next (Template.scriptOf defaultTag depth parent next templates)
      (Template.occurrencesOf depth templates)
  | [], _, _, next => .nil next
  | template :: rest, depth, parent, next => by
      have hfirst := Template.opens_script defaultTag template depth next
      have hrest := Template.opens_scriptOf defaultTag rest depth parent
        (next + (template.occurrences depth).length)
      rw [Template.scriptOf, Template.occurrencesOf, hfirst.made_eq, List.length_map]
      exact hfirst.append (.other rfl hrest)

end

end

/-- A script makes the elements of its template. -/
theorem Template.made_script (defaultTag : String) (template : Template Nat) (depth next : Nat) :
    Directive.made (template.script defaultTag depth next) = template.sites defaultTag depth :=
  (template.opens_script defaultTag depth next).made_eq

theorem Template.length_made_script (defaultTag : String) (template : Template Nat)
    (depth next : Nat) :
    (Directive.made (template.script defaultTag depth next)).length = template.count := by
  rw [made_script, sites, List.length_map, length_occurrences]

end TemplateTree
