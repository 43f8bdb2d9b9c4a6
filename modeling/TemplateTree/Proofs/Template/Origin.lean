import Mathlib.Data.List.Basic
import TemplateTree.Proofs.Json.Nesting
import TemplateTree.Proofs.Template.Expressible
import TemplateTree.Proofs.Template.Occurrences

/-! # Where elements come from

Every element of a template that was read from JSON comes from an entry of its own, in the
order of the text. An element takes at least one container, so it lies in fewer elements than
its entry lies in containers. -/

namespace TemplateTree

/-! ## Places in JSON -/

namespace Json

/-- A value as it stands in a container, with its key when that is an object. -/
structure Entry where
  key : Option String
  value : Json

def entries : Json → List Entry
  | .array items => items.map fun item => ⟨none, item⟩
  | .object members => members.map fun (key, value) => ⟨some key, value⟩
  | _ => []

/-- The entry at a place. Every step of a place leads into one more container. -/
def Entry.at? : Entry → List Nat → Option Entry
  | entry, [] => some entry
  | entry, step :: place => entry.value.entries[step]?.bind (·.at? place)

/-- The entry at a place that starts among these entries. -/
def inside? (entries : List Entry) : List Nat → Option Entry
  | [] => none
  | step :: place => entries[step]?.bind (·.at? place)

/-- The same place behind one more entry. -/
def later : List Nat → List Nat
  | [] => []
  | step :: place => (step + 1) :: place

theorem later_lt_later {first second : List Nat} (h : first < second) :
    later first < later second := by
  cases second with
  | nil => exact absurd h (List.not_lt_nil first)
  | cons j second =>
      cases first with
      | nil => exact List.nil_lt_cons _ _
      | cons i first =>
          rw [List.cons_lt_cons_iff] at h
          rw [later, later, List.cons_lt_cons_iff, Nat.add_lt_add_iff_right,
            Nat.add_right_cancel_iff]
          exact h

theorem exists_of_inside? {entries : List Entry} {place : List Nat} {entry : Entry}
    (h : inside? entries place = some entry) : ∃ step rest, place = step :: rest := by
  cases place with
  | nil => cases h
  | cons step rest => exact ⟨step, rest, rfl⟩

theorem NestsWithin.of_mem_entries {limit : Nat} {value : Json} {entry : Entry}
    (hn : value.NestsWithin limit) (he : entry ∈ value.entries) :
    ∃ inner, limit = inner + 1 ∧ entry.value.NestsWithin inner := by
  cases hn with
  | scalar hs =>
      cases value with
      | array | object => cases hs
      | null | bool | number | string => cases he
  | array hi =>
      obtain ⟨item, hm, rfl⟩ := List.mem_map.mp he
      exact ⟨_, rfl, hi item hm⟩
  | object ho =>
      obtain ⟨⟨key, value⟩, hm, rfl⟩ := List.mem_map.mp he
      exact ⟨_, rfl, ho (key, value) hm⟩

/-- A place has no more steps than there are containers inside each other. -/
theorem length_le_of_at? {limit : Nat} {entry found : Entry} {place : List Nat}
    (hn : entry.value.NestsWithin limit) (h : entry.at? place = some found) :
    place.length ≤ limit := by
  induction place generalizing entry limit with
  | nil => exact Nat.zero_le limit
  | cons step place ih =>
      obtain ⟨next, hnext, hat⟩ := Option.bind_eq_some_iff.mp h
      obtain ⟨inner, rfl, hinner⟩ := hn.of_mem_entries (List.mem_of_getElem? hnext)
      exact Nat.succ_le_succ (ih hinner hat)

end Json

variable {ν : Type}

/-! ## Elements and entries -/

/-- The element is the one for the entry at a place, below so many more containers. -/
structure Occurrence.IsAt (find : List Nat → Option Json.Entry) (levels : Nat)
    (element : Occurrence ν) (place : List Nat) : Prop where
  depth_lt : element.depth < levels + place.length
  entry : ∃ value, find place = some ⟨some element.selector, value⟩ ∧
    Content.ofJson element.selector value = .ok element.content

namespace Occurrence.IsAt

open Json

variable {entry : Entry} {entries : List Entry} {levels : Nat} {element : Occurrence ν}
  {place : List Nat}

/-- A place among entries has a first step. -/
theorem exists_eq_cons (h : element.IsAt (inside? entries) levels place) :
    ∃ step rest, place = step :: rest := by
  obtain ⟨value, hfind, -⟩ := h.entry
  exact exists_of_inside? hfind

theorem of_inside (h : element.IsAt (inside? entry.value.entries) levels place) :
    element.IsAt entry.at? levels place := by
  obtain ⟨step, rest, rfl⟩ := h.exists_eq_cons
  exact ⟨h.depth_lt, h.entry⟩

theorem first (h : element.IsAt entry.at? (levels + 1) place) :
    element.IsAt (inside? (entry :: entries)) levels (0 :: place) := by
  refine ⟨?_, h.entry⟩
  have hd := h.depth_lt
  rw [List.length_cons]
  omega

theorem later (h : element.IsAt (inside? entries) levels place) :
    element.IsAt (inside? (entry :: entries)) levels (Json.later place) := by
  obtain ⟨step, rest, rfl⟩ := h.exists_eq_cons
  exact ⟨h.depth_lt, h.entry⟩

end Occurrence.IsAt

/-- Every element has a place of its own, and the places are in order. -/
def Found (find : List Nat → Option Json.Entry) (levels : Nat)
    (elements : List (Occurrence ν)) : Prop :=
  ∃ found : List (Occurrence ν × List Nat), found.map Prod.fst = elements ∧
    found.Pairwise (·.2 < ·.2) ∧ ∀ element ∈ found, element.1.IsAt find levels element.2

namespace Found

open Json

variable {find : List Nat → Option Entry} {levels : Nat} {elements : List (Occurrence ν)}

theorem nil : Found find levels ([] : List (Occurrence ν)) :=
  ⟨[], rfl, .nil, List.forall_mem_nil _⟩

theorem mono {more : Nat} (hle : levels ≤ more) (h : Found find levels elements) :
    Found find more elements := by
  obtain ⟨found, he, ho, hf⟩ := h
  refine ⟨found, he, ho, fun element hm => ⟨?_, (hf element hm).entry⟩⟩
  exact Nat.lt_of_lt_of_le (hf element hm).depth_lt (Nat.add_le_add_right hle _)

/-- What is found among the entries of a container is found from the container. -/
theorem of_inside {entry : Entry} (h : Found (inside? entry.value.entries) levels elements) :
    Found entry.at? levels elements := by
  obtain ⟨found, he, ho, hf⟩ := h
  exact ⟨found, he, ho, fun element hm => (hf element hm).of_inside⟩

/-- An element stands at its own entry, before all that lies in it. -/
theorem element {selector : String} {value : Json} {content : Content ν} {depth : Nat}
    (hv : Content.ofJson selector value = .ok content)
    (h : Found (inside? value.entries) (depth + 1) elements) :
    Found (Entry.at? ⟨some selector, value⟩) (depth + 1)
      (⟨depth, selector, content⟩ :: elements) := by
  obtain ⟨found, rfl, ho, hf⟩ := h
  refine ⟨(⟨depth, selector, content⟩, []) :: found, rfl, List.pairwise_cons.mpr ⟨?_, ho⟩,
    List.forall_mem_cons.mpr ⟨⟨Nat.lt_succ_self depth, value, rfl, hv⟩, ?_⟩⟩
  · intro other hm
    obtain ⟨step, rest, hp⟩ := (hf other hm).exists_eq_cons
    rw [hp]
    exact List.nil_lt_cons _ _
  · exact fun other hm => (hf other hm).of_inside

/-- What is found in the first of some entries comes before what is found in the others. -/
theorem cons {entry : Entry} {entries : List Entry} {others : List (Occurrence ν)}
    (h : Found entry.at? (levels + 1) elements) (hr : Found (inside? entries) levels others) :
    Found (inside? (entry :: entries)) levels (elements ++ others) := by
  obtain ⟨found, rfl, ho, hf⟩ := h
  obtain ⟨found', rfl, ho', hf'⟩ := hr
  refine ⟨found.map (Prod.map id (0 :: ·)) ++ found'.map (Prod.map id later), ?_, ?_, ?_⟩
  · simp [Function.comp_def]
  · rw [List.pairwise_append, List.pairwise_map, List.pairwise_map]
    refine ⟨ho.imp fun h => List.cons_lt_cons_iff.mpr (.inr ⟨rfl, h⟩),
      ho'.imp fun h => later_lt_later h, ?_⟩
    intro first h₁ second h₂
    obtain ⟨first, -, rfl⟩ := List.mem_map.mp h₁
    obtain ⟨second, hm, rfl⟩ := List.mem_map.mp h₂
    obtain ⟨step, rest, hp⟩ := (hf' second hm).exists_eq_cons
    show 0 :: first.2 < later second.2
    rw [hp]
    exact List.cons_lt_cons_iff.mpr (.inl (Nat.succ_pos step))
  · intro element hm
    rcases List.mem_append.mp hm with hm | hm
    · obtain ⟨element, he, rfl⟩ := List.mem_map.mp hm
      exact (hf element he).first
    · obtain ⟨element, he, rfl⟩ := List.mem_map.mp hm
      exact (hf' element he).later

end Found

/-! ## Elements of converted values -/

section

open Json

variable {depth : Nat}

theorem Found.items {items : List Json} {templates : List (Template ν)}
    (h : ∀ item ∈ items, ∀ template : Template ν, Template.ofJson item = .ok template →
      Found (inside? item.entries) depth (template.occurrences depth))
    (hok : items.mapM Template.ofJson = .ok templates) :
    Found (inside? (Json.array items).entries) depth
      (Template.occurrencesOf depth templates) := by
  induction items generalizing templates with
  | nil =>
      cases hok
      exact .nil
  | cons item items ih =>
      rw [List.forall_mem_cons] at h
      rw [List.mapM_cons] at hok
      obtain ⟨template, hitem, hok⟩ := exists_of_bind_eq_ok hok
      obtain ⟨rest, hrest, hok⟩ := exists_of_bind_eq_ok hok
      cases hok
      have hfirst : Found (Entry.at? ⟨none, item⟩) depth (template.occurrences depth) :=
        .of_inside (h.1 template hitem)
      exact .cons (hfirst.mono (Nat.le_succ depth)) (ih h.2 hrest)

theorem Found.entry {selector key : String} {value : Json} {templates : List (Template ν)}
    (h : ∀ selector (content : Content ν), Content.ofJson selector value = .ok content →
      ∀ depth, Found (inside? value.entries) depth (content.occurrences depth))
    (hok : Content.childrenOf selector (key, value) = .ok templates) :
    Found (Entry.at? ⟨some key, value⟩) (depth + 1)
      (Template.occurrencesOf depth templates) := by
  rcases Content.childrenOf_eq_ok hok with rfl | hlist | ⟨content, hcontent, rfl⟩
  · exact .nil
  · exact (Found.of_inside (h selector _ hlist depth)).mono (Nat.le_succ depth)
  · have helement := Found.element hcontent (h key content hcontent (depth + 1))
    rw [Template.occurrencesOf, Template.occurrencesOf, List.append_nil]
    exact helement

theorem Found.members {selector : String} {members : List (String × Json)}
    {templates : List (Template ν)}
    (h : ∀ entry ∈ members, ∀ selector (content : Content ν),
      Content.ofJson selector entry.2 = .ok content →
        ∀ depth, Found (inside? entry.2.entries) depth (content.occurrences depth))
    (hok : collect (Content.childrenOf selector) members = .ok templates) :
    Found (inside? (Json.object members).entries) depth
      (Template.occurrencesOf depth templates) := by
  induction members generalizing templates with
  | nil =>
      cases hok
      exact .nil
  | cons entry members ih =>
      rw [List.forall_mem_cons] at h
      obtain ⟨first, hfirst, hok⟩ := exists_of_bind_eq_ok hok
      obtain ⟨rest, hrest, hok⟩ := exists_of_bind_eq_ok hok
      cases hok
      rw [Template.occurrencesOf_append]
      exact .cons (Found.entry h.1 hfirst) (ih h.2 hrest)

/-- By induction on the value: each container has the elements of its entries. -/
theorem Found.of_ofJson (value : Json) :
    (∀ template : Template ν, Template.ofJson value = .ok template →
      ∀ depth, Found (inside? value.entries) depth (template.occurrences depth)) ∧
    ∀ selector (content : Content ν), Content.ofJson selector value = .ok content →
      ∀ depth, Found (inside? value.entries) depth (content.occurrences depth) := by
  apply Template.ofJson_induction
  · intro selector value content hok h depth
    have hnone : Found (inside? []) depth ([] : List (Occurrence ν)) := .nil
    have hrow := Found.cons (Found.element hok (h (depth + 1))) hnone
    rw [List.append_nil] at hrow
    exact hrow
  · exact fun _ _ _ _ => .nil
  · intro selector items templates hok h depth
    exact .items (fun item hi template ht => h item hi template ht depth) hok
  · exact fun _ _ _ hok h _ => .members h hok

end

/-- An element of a converted value comes from an entry with its selector as key and its
content as value, and lies in fewer elements than the entry lies in containers. Entries are
in the order of their elements. -/
theorem Template.occurrences_found {value : Json} {template : Template ν}
    (h : ofJson value = .ok template) :
    Found (Json.Entry.at? ⟨none, value⟩) 0 (template.occurrences 0) :=
  .of_inside ((Found.of_ofJson value).1 template h 0)

/-! ## Embedded nodes -/

namespace Template

theorem handlesOf_of_childrenOf {selector : String} {entry : String × Json}
    {templates : List (Template ν)}
    (h : ∀ selector (content : Content ν), Content.ofJson selector entry.2 = .ok content →
      content.handles = [])
    (hok : Content.childrenOf selector entry = .ok templates) :
    ∀ template ∈ templates, template.handles = [] := by
  rcases Content.childrenOf_eq_ok hok with rfl | hlist | ⟨content, hcontent, rfl⟩
  · exact List.forall_mem_nil _
  · exact handlesOf_eq_nil_iff.mp (h selector _ hlist)
  · exact List.forall_mem_singleton.mpr (h entry.1 content hcontent)

/-- A template from JSON embeds no nodes. -/
theorem handles_of_ofJson {value : Json} {template : Template ν}
    (h : ofJson value = .ok template) : template.handles = [] := by
  have hcontent : (∀ template : Template ν, ofJson value = .ok template → template.handles = []) ∧
      ∀ selector (content : Content ν), Content.ofJson selector value = .ok content →
        content.handles = [] := by
    apply ofJson_induction
    · exact fun _ _ _ _ h => h
    · exact fun _ _ _ => rfl
    · intro selector items templates hok h
      refine handlesOf_eq_nil_iff.mpr fun template ht => ?_
      obtain ⟨item, hi, hitem⟩ := exists_of_mem_mapM hok ht
      exact h item hi template hitem
    · intro selector members templates hok h
      refine handlesOf_eq_nil_iff.mpr fun template ht => ?_
      obtain ⟨entry, he, list, hlist, hm⟩ := exists_of_mem_collect hok ht
      exact handlesOf_of_childrenOf (h entry he) hlist template hm
  exact hcontent.1 template h

end Template

end TemplateTree
