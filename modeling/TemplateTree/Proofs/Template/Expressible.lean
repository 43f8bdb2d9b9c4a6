import TemplateTree.Proofs.Template.Conversion
import TemplateTree.Proofs.Template.Meaning

/-! # Templates that JSON can express

An element without existing nodes, in which every bag has at most one property under each key
of an object. -/

namespace TemplateTree

variable {ν : Type}

mutual

/-- The properties of each bag in a template. -/
def Template.bags : Template ν → List (List Property)
  | .element _ content => content.bags
  | .node _ => []

def Content.bags : Content ν → List (List Property)
  | .bag ⟨properties, templates⟩ => properties :: Template.bagsOf templates
  | .items templates => Template.bagsOf templates
  | .text _ | .node _ => []

def Template.bagsOf : List (Template ν) → List (List Property)
  | [] => []
  | template :: rest => template.bags ++ Template.bagsOf rest

end

namespace Property

def name? : Property → Option String
  | attr name _ => some name
  | _ => none

def css? : Property → Option String
  | style css => some css
  | _ => none

/-- Properties with a key for each of them. -/
structure FitOneObject (properties : List Property) : Prop where
  names : (properties.filterMap name?).Nodup
  plain : ∀ name ∈ properties.filterMap name?,
    name ∉ reservedKeys ∧ '.' ∉ name.toList ∧ '#' ∉ name.toList
  html : (properties.filterMap text?).length ≤ 1
  style : (properties.filterMap css?).length ≤ 1

end Property

/-- An element with no existing nodes and with bags that can be written as objects. -/
structure Template.IsExpressible (template : Template ν) : Prop where
  element : ∃ selector content, template = .element selector content
  handles : template.handles = []
  bags : ∀ properties ∈ template.bags, Property.FitOneObject properties

/-! ## Templates by their elements -/

namespace Template

/-- Induction over templates: what holds of all children of an element holds of it. -/
@[elab_as_elim]
theorem inductionOn {motive : Template ν → Prop}
    (node : ∀ handle, motive (.node handle))
    (text : ∀ selector text, motive (.element selector (.text text)))
    (bag : ∀ selector properties templates, (∀ template ∈ templates, motive template) →
      motive (.element selector (.bag ⟨properties, templates⟩)))
    (items : ∀ selector templates, (∀ template ∈ templates, motive template) →
      motive (.element selector (.items templates)))
    (held : ∀ selector handle, motive (.element selector (.node handle))) :
    ∀ template : Template ν, motive template
  | .node handle => node handle
  | .element selector (.text string) => text selector string
  | .element selector (.bag ⟨properties, templates⟩) =>
      bag selector properties templates fun template h =>
        have : sizeOf template < sizeOf templates := List.sizeOf_lt_of_mem h
        inductionOn node text bag items held template
  | .element selector (.items templates) =>
      items selector templates fun template h =>
        have : sizeOf template < sizeOf templates := List.sizeOf_lt_of_mem h
        inductionOn node text bag items held template
  | .element selector (.node handle) => held selector handle

theorem handlesOf_eq_nil_iff {templates : List (Template ν)} :
    handlesOf templates = [] ↔ ∀ template ∈ templates, template.handles = [] := by
  induction templates with
  | nil => exact iff_of_true rfl (List.forall_mem_nil _)
  | cons template rest ih => rw [handlesOf, List.append_eq_nil_iff, ih, List.forall_mem_cons]

theorem forall_mem_bagsOf_iff {p : List Property → Prop} {templates : List (Template ν)} :
    (∀ properties ∈ bagsOf templates, p properties) ↔
      ∀ template ∈ templates, ∀ properties ∈ template.bags, p properties := by
  induction templates with
  | nil => exact iff_of_true nofun nofun
  | cons template rest ih => rw [bagsOf, List.forall_mem_append, ih, List.forall_mem_cons]

theorem exists_of_handles_eq_nil {template : Template ν} (h : template.handles = []) :
    ∃ selector content, template = .element selector content := by
  cases template with
  | element selector content => exact ⟨selector, content, rfl⟩
  | node handle => cases h

variable {selector : String} {templates : List (Template ν)}

theorem isExpressible_text (text : String) :
    (element selector (.text text) : Template ν).IsExpressible :=
  ⟨⟨_, _, rfl⟩, rfl, nofun⟩

theorem isExpressible_items_iff :
    (element selector (.items templates)).IsExpressible ↔
      ∀ template ∈ templates, template.IsExpressible := by
  constructor
  · rintro ⟨-, hhandles, hbags⟩ template ht
    have hnone := handlesOf_eq_nil_iff.mp hhandles template ht
    exact ⟨exists_of_handles_eq_nil hnone, hnone, forall_mem_bagsOf_iff.mp hbags template ht⟩
  · intro h
    exact ⟨⟨_, _, rfl⟩, handlesOf_eq_nil_iff.mpr fun _ ht => (h _ ht).handles,
      forall_mem_bagsOf_iff.mpr fun _ ht => (h _ ht).bags⟩

theorem isExpressible_bag_iff {properties : List Property} :
    (element selector (.bag ⟨properties, templates⟩)).IsExpressible ↔
      Property.FitOneObject properties ∧ ∀ template ∈ templates, template.IsExpressible := by
  rw [← isExpressible_items_iff]
  constructor
  · rintro ⟨-, hhandles, hbags⟩
    obtain ⟨hfit, hrest⟩ := List.forall_mem_cons.mp hbags
    exact ⟨hfit, ⟨selector, _, rfl⟩, hhandles, hrest⟩
  · rintro ⟨hfit, -, hhandles, hrest⟩
    exact ⟨⟨_, _, rfl⟩, hhandles, List.forall_mem_cons.mpr ⟨hfit, hrest⟩⟩

end Template

/-! ## Keys of properties -/

namespace Property

/-- The key that a property has in an object. -/
def key : Property → String
  | attr name _ => name
  | html _ => htmlKey
  | style _ => styleKey

/-- A property whose key is that of no other kind of entry. -/
def IsPlain (property : Property) : Prop :=
  ∀ name, property.name? = some name →
    name ∉ reservedKeys ∧ '.' ∉ name.toList ∧ '#' ∉ name.toList

theorem mem_map_key {name : String} {properties : List Property} :
    name ∈ properties.map key ↔
      name ∈ properties.filterMap name? ∨
        (name = htmlKey ∧ properties.filterMap text? ≠ []) ∨
        (name = styleKey ∧ properties.filterMap css? ≠ []) := by
  induction properties with
  | nil => simp
  | cons property rest ih =>
      rw [List.map_cons, List.mem_cons, ih]
      cases property <;>
        simp only [key, List.filterMap_cons, name?, text?, css?, List.mem_cons, ne_eq,
          reduceCtorEq, not_false_eq_true, and_true] <;>
        tauto

theorem forall_mem_names_iff {properties : List Property} {p : String → Prop} :
    (∀ name ∈ properties.filterMap name?, p name) ↔
      ∀ property ∈ properties, ∀ name, property.name? = some name → p name := by
  simp only [List.mem_filterMap]
  exact ⟨fun h property hp name hn => h name ⟨property, hp, hn⟩,
    fun h name ⟨property, hp, hn⟩ => h property hp name hn⟩

theorem length_add_one_le_one_iff {α : Type} {xs : List α} : xs.length + 1 ≤ 1 ↔ xs = [] := by
  rw [← List.length_eq_zero_iff]
  omega

theorem nodup_keys_iff {properties : List Property} (h : ∀ property ∈ properties, property.IsPlain) :
    (properties.map key).Nodup ↔ (properties.filterMap name?).Nodup ∧
      (properties.filterMap text?).length ≤ 1 ∧ (properties.filterMap css?).length ≤ 1 := by
  induction properties with
  | nil => simp
  | cons property rest ih =>
      rw [List.forall_mem_cons] at h
      obtain ⟨hproperty, hrest⟩ := h
      have hnames := forall_mem_names_iff.mpr hrest
      have hhtml : htmlKey ∉ rest.filterMap name? := fun hmem => absurd (by decide) (hnames _ hmem).1
      have hstyle : styleKey ∉ rest.filterMap name? := fun hmem =>
        absurd (by decide) (hnames _ hmem).1
      have hne : htmlKey ≠ styleKey := by decide
      rw [List.map_cons, List.nodup_cons, ih hrest, mem_map_key]
      cases property with
      | attr name value =>
          have hname := (hproperty name rfl).1
          simp only [reservedKeys, List.mem_cons, List.not_mem_nil, or_false, not_or] at hname
          simp only [key, List.filterMap_cons, name?, text?, css?, List.nodup_cons]
          tauto
      | html text =>
          simp only [key, List.filterMap_cons, name?, text?, css?, List.length_cons,
            length_add_one_le_one_iff]
          grind
      | style css =>
          simp only [key, List.filterMap_cons, name?, text?, css?, List.length_cons,
            length_add_one_le_one_iff]
          grind

theorem fitOneObject_iff {properties : List Property} :
    FitOneObject properties ↔
      (properties.map key).Nodup ∧ ∀ property ∈ properties, property.IsPlain := by
  constructor
  · rintro ⟨hnames, hnamesPlain, hhtml, hstyle⟩
    have hplain := forall_mem_names_iff.mp hnamesPlain
    exact ⟨(nodup_keys_iff hplain).mpr ⟨hnames, hhtml, hstyle⟩, hplain⟩
  · rintro ⟨hkeys, hplain⟩
    obtain ⟨hnames, hhtml, hstyle⟩ := (nodup_keys_iff hplain).mp hkeys
    exact ⟨hnames, forall_mem_names_iff.mpr hplain, hhtml, hstyle⟩

end Property

end TemplateTree
