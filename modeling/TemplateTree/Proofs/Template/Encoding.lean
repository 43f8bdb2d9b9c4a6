import TemplateTree.Proofs.Template.Expressible
import TemplateTree.Proofs.Template.Rearrangement

/-! # Templates written as JSON

Which templates come from JSON whose objects have distinct keys, and the JSON that such a
template is written as. -/

namespace TemplateTree

variable {ν : Type}

/-- No object in the value has two entries with the same key. -/
inductive Json.DistinctKeys : Json → Prop
  | scalar {value} : value.isContainer = false → DistinctKeys value
  | array {items} : (∀ item ∈ items, DistinctKeys item) → DistinctKeys (.array items)
  | object {members : List (String × Json)} : (members.map Prod.fst).Nodup →
      (∀ entry ∈ members, DistinctKeys entry.2) → DistinctKeys (.object members)

theorem Json.distinctKeys_array_iff {items : List Json} :
    DistinctKeys (.array items) ↔ ∀ item ∈ items, DistinctKeys item := by
  constructor
  · rintro (h | h | _)
    · cases h
    · exact h
  · exact .array

theorem Json.distinctKeys_object_iff {members : List (String × Json)} :
    DistinctKeys (.object members) ↔
      (members.map Prod.fst).Nodup ∧ ∀ entry ∈ members, DistinctKeys entry.2 := by
  constructor
  · rintro (h | _ | ⟨hkeys, hvalues⟩)
    · cases h
    · exact ⟨hkeys, hvalues⟩
  · exact fun ⟨hkeys, hvalues⟩ => .object hkeys hvalues

/-! ## Writing a template -/

def AttrValue.toJson : AttrValue → Json
  | text value => .string value
  | number value => .number value
  | bool value => .bool value
  | null => .null

/-- The entry that a property is written as. -/
def Property.toEntry : Property → String × Json
  | attr name value => (name, value.toJson)
  | html text => (htmlKey, .string text)
  | style css => (styleKey, .string css)

mutual

/-- A template as JSON; there is nothing to write for an existing node. -/
def Template.toJson : Template ν → Json
  | .element selector content => .object [(selector, content.toJson)]
  | .node _ => .null

def Content.toJson : Content ν → Json
  | .text text => .string text
  | .bag ⟨properties, templates⟩ =>
    .object (properties.map Property.toEntry ++
      [(childrenKey, .array (Template.listToJson templates))])
  | .items templates => .array (Template.listToJson templates)
  | .node _ => .null

def Template.listToJson : List (Template ν) → List Json
  | [] => []
  | template :: rest => template.toJson :: Template.listToJson rest

end

/-! ## Reading it back -/

theorem AttrValue.ofJson_toJson (value : AttrValue) : ofJson value.toJson = value := by
  cases value <;> rfl

theorem AttrValue.isContainer_toJson (value : AttrValue) : value.toJson.isContainer = false := by
  cases value <;> rfl

namespace Property

theorem toEntry_fst (property : Property) : property.toEntry.1 = property.key := by
  cases property <;> rfl

theorem isContainer_toEntry (property : Property) :
    property.toEntry.2.isContainer = false := by
  cases property with
  | attr name value => exact value.isContainer_toJson
  | html | style => rfl

theorem IsPlain.isPlain_toJson {name : String} {value : AttrValue} (h : (attr name value).IsPlain) :
    Json.IsPlain name value.toJson :=
  ⟨(h name rfl).1, value.isContainer_toJson, (h name rfl).2⟩

theorem IsPlain.key_ne_childrenKey {property : Property} (h : property.IsPlain) :
    property.key ≠ childrenKey := by
  cases property with
  | attr name value =>
      rintro rfl
      exact (h childrenKey rfl).1 List.mem_cons_self
  | html text => exact of_decide_eq_true rfl
  | style css => exact of_decide_eq_true rfl

theorem IsPlain.ofMember?_toEntry {property : Property} (h : property.IsPlain) :
    ofMember? property.toEntry = some property := by
  cases property with
  | attr name value => rw [toEntry, ofMember?_of_isPlain h.isPlain_toJson, value.ofJson_toJson]
  | html text => rw [toEntry, ofMember?_html, Json.scalarText]
  | style css => rw [toEntry, ofMember?_style, Json.scalarText]

theorem IsPlain.childrenOf_toEntry {property : Property} (h : property.IsPlain)
    (selector : String) : Content.childrenOf (ν := ν) selector property.toEntry = .ok [] := by
  cases property with
  | attr name value => exact Content.childrenOf_of_isPlain h.isPlain_toJson
  | html text => exact Content.childrenOf_html
  | style css => exact Content.childrenOf_style

theorem distinctKeys_bag {properties : List Property} {items : List Json}
    (hkeys : (properties.map key).Nodup) (hplain : ∀ property ∈ properties, property.IsPlain)
    (hitems : ∀ item ∈ items, item.DistinctKeys) :
    (Json.object (properties.map toEntry ++ [(childrenKey, .array items)])).DistinctKeys := by
  have hfst : (properties.map toEntry).map Prod.fst = properties.map key := by
    rw [List.map_map]
    exact List.map_congr_left fun property _ => property.toEntry_fst
  refine .object ?_ ?_
  · rw [List.map_append, hfst]
    refine List.nodup_append.mpr ⟨hkeys, List.nodup_singleton _, ?_⟩
    rintro name hname other hother rfl
    obtain ⟨property, hp, rfl⟩ := List.mem_map.mp hname
    exact (hplain property hp).key_ne_childrenKey (List.mem_singleton.mp hother)
  · rw [List.forall_mem_append, List.forall_mem_singleton]
    refine ⟨List.forall_mem_map.mpr fun property _ => .scalar property.isContainer_toEntry, ?_⟩
    exact .array hitems

end Property

namespace Template

theorem listToJson_eq_map (templates : List (Template ν)) :
    listToJson templates = templates.map toJson := by
  induction templates with
  | nil => rfl
  | cons template rest ih => rw [listToJson, ih, List.map_cons]

theorem mapM_ofJson_toJson {templates : List (Template ν)}
    (h : ∀ template ∈ templates, ofJson (ν := ν) template.toJson = .ok template) :
    (listToJson templates).mapM ofJson = .ok templates := by
  rw [listToJson_eq_map]
  induction templates with
  | nil => rfl
  | cons template rest ih =>
      rw [List.forall_mem_cons] at h
      rw [List.map_cons, List.mapM_cons, h.1, ih h.2]
      rfl

theorem forall_mem_listToJson_iff {p : Json → Prop} {templates : List (Template ν)} :
    (∀ item ∈ listToJson templates, p item) ↔ ∀ template ∈ templates, p template.toJson := by
  rw [listToJson_eq_map, List.forall_mem_map]

end Template

theorem Content.ofJson_bag {properties : List Property} {templates : List (Template ν)}
    (hproperties : ∀ property ∈ properties, property.IsPlain)
    (htemplates : (Template.listToJson templates).mapM Template.ofJson = .ok templates)
    (selector : String) :
    ofJson selector (.object (properties.map Property.toEntry ++
      [(childrenKey, .array (Template.listToJson templates))])) =
        .ok (.bag ⟨properties, templates⟩) := by
  have hread : (properties.map Property.toEntry).filterMap Property.ofMember? = properties := by
    rw [List.filterMap_map]
    exact (List.filterMap_congr fun property hp => (hproperties property hp).ofMember?_toEntry).trans
      List.filterMap_some
  have hnone : collect (childrenOf (ν := ν) selector) (properties.map Property.toEntry) =
      .ok [] := by
    refine collect_eq_nil (List.forall_mem_map.mpr fun property hp => ?_)
    exact (hproperties property hp).childrenOf_toEntry selector
  rw [ofJson_object, List.filterMap_append, hread, List.filterMap_cons, Property.ofMember?_children,
    collect_append, hnone, collect, childrenOf_children, htemplates]
  show Except.ok (bag ⟨properties ++ [], templates ++ []⟩) = _
  rw [List.append_nil, List.append_nil]

namespace Template

/-- A template that JSON can express is read back from what it is written as. -/
theorem ofJson_toJson_and_distinctKeys {template : Template ν} (h : template.IsExpressible) :
    ofJson template.toJson = .ok template ∧ template.toJson.DistinctKeys := by
  induction template using inductionOn with
  | node handle => cases h.handles
  | held selector handle => cases h.handles
  | text selector text =>
      refine ⟨?_, ?_⟩
      · rfl
      · exact .object (List.nodup_singleton _) (List.forall_mem_singleton.mpr (.scalar rfl))
  | bag selector properties templates ih =>
      obtain ⟨hfit, htemplates⟩ := isExpressible_bag_iff.mp h
      obtain ⟨hkeys, hplain⟩ := Property.fitOneObject_iff.mp hfit
      have hitems := mapM_ofJson_toJson fun t ht => (ih t ht (htemplates t ht)).1
      rw [toJson, Content.toJson, ofJson_single, Content.ofJson_bag hplain hitems]
      refine ⟨rfl, .object (List.nodup_singleton _) (List.forall_mem_singleton.mpr ?_)⟩
      refine Property.distinctKeys_bag hkeys hplain ?_
      exact forall_mem_listToJson_iff.mpr fun t ht => (ih t ht (htemplates t ht)).2
  | items selector templates ih =>
      have htemplates := isExpressible_items_iff.mp h
      have hitems := mapM_ofJson_toJson fun t ht => (ih t ht (htemplates t ht)).1
      rw [toJson, Content.toJson, ofJson_single, Content.ofJson_array, hitems]
      refine ⟨rfl, .object (List.nodup_singleton _) (List.forall_mem_singleton.mpr (.array ?_))⟩
      exact forall_mem_listToJson_iff.mpr fun t ht => (ih t ht (htemplates t ht)).2

end Template

/-! ## What JSON expresses -/

theorem Property.of_ofMember? {entry : String × Json} {property : Property}
    (h : ofMember? entry = some property) : property.key = entry.1 ∧ property.IsPlain := by
  obtain ⟨key, value⟩ := entry
  rcases Json.entry_cases key value with rfl | rfl | rfl | hchild | hplain
  · rw [ofMember?_children] at h
    cases h
  · rw [ofMember?_html] at h
    cases h
    exact ⟨rfl, nofun⟩
  · rw [ofMember?_style] at h
    cases h
    exact ⟨rfl, nofun⟩
  · rw [ofMember?_of_isChild hchild] at h
    cases h
  · rw [ofMember?_of_isPlain hplain] at h
    cases h
    refine ⟨rfl, fun name hname => ?_⟩
    cases hname
    exact ⟨hplain.1, hplain.2.2⟩

theorem Property.map_key_ofMember?_sublist (members : List (String × Json)) :
    List.Sublist ((members.filterMap ofMember?).map key) (members.map Prod.fst) := by
  induction members with
  | nil => exact .slnil
  | cons entry rest ih =>
      rw [List.map_cons, List.filterMap_cons]
      cases he : ofMember? entry with
      | none => exact ih.cons entry.1
      | some property =>
          rw [List.map_cons, (of_ofMember? he).1]
          exact ih.cons_cons entry.1

theorem Property.fitOneObject_ofMember? {members : List (String × Json)}
    (h : (members.map Prod.fst).Nodup) : FitOneObject (members.filterMap ofMember?) := by
  refine fitOneObject_iff.mpr ⟨h.sublist (map_key_ofMember?_sublist members), fun property hp => ?_⟩
  obtain ⟨entry, -, he⟩ := List.mem_filterMap.mp hp
  exact (of_ofMember? he).2

/-- The children in an entry are what its value holds as a content, or the element with it. -/
theorem Content.isExpressible_of_mem_childrenOf {selector : String} {entry : String × Json}
    (hentry : ∀ selector (content : Content ν), ofJson selector entry.2 = .ok content →
      (Template.element selector content).IsExpressible)
    {templates : List (Template ν)} (h : childrenOf selector entry = .ok templates)
    {template : Template ν} (ht : template ∈ templates) : template.IsExpressible := by
  rcases childrenOf_eq_ok h with rfl | hlist | ⟨content, hcontent, rfl⟩
  · cases ht
  · exact Template.isExpressible_items_iff.mp (hentry selector _ hlist) template ht
  · rw [List.mem_singleton.mp ht]
    exact hentry entry.1 content hcontent

namespace Template

/-- What JSON with distinct keys is converted to can be expressed. -/
theorem isExpressible_of_ofJson {value : Json} (h : value.DistinctKeys) :
    (∀ template : Template ν, ofJson value = .ok template → template.IsExpressible) ∧
      ∀ selector (content : Content ν), Content.ofJson selector value = .ok content →
        (element selector content).IsExpressible := by
  have hconverted : (∀ template : Template ν, ofJson value = .ok template →
        value.DistinctKeys → template.IsExpressible) ∧
      ∀ selector (content : Content ν), Content.ofJson selector value = .ok content →
        value.DistinctKeys → (element selector content).IsExpressible := by
    apply ofJson_induction
    · intro selector value content _ hcontent h
      exact hcontent ((Json.distinctKeys_object_iff.mp h).2 _ (List.mem_singleton_self _))
    · exact fun _ _ _ _ => isExpressible_text _
    · intro selector items templates hok hitems h
      refine isExpressible_items_iff.mpr fun template ht => ?_
      obtain ⟨item, hitem, hof⟩ := exists_of_mem_mapM hok ht
      exact hitems item hitem template hof (Json.distinctKeys_array_iff.mp h item hitem)
    · intro selector members templates hok hmembers h
      obtain ⟨hkeys, hvalues⟩ := Json.distinctKeys_object_iff.mp h
      refine isExpressible_bag_iff.mpr ⟨Property.fitOneObject_ofMember? hkeys, ?_⟩
      intro template ht
      obtain ⟨entry, he, found, hfound, hmem⟩ := exists_of_mem_collect hok ht
      exact Content.isExpressible_of_mem_childrenOf
        (fun selector content hc => hmembers entry he selector content hc (hvalues entry he))
        hfound hmem
  exact ⟨fun template ht => hconverted.1 template ht h,
    fun selector content hc => hconverted.2 selector content hc h⟩

/-- The templates that JSON with distinct keys expresses are known, and each is read back from
what it is written as. Children may be entries or items of the list of children, and may be
moved past properties, anywhere in a template. -/
theorem expressed_by_json :
    (∀ template : Template ν,
      (∃ value : Json, value.DistinctKeys ∧ ofJson value = .ok template) ↔
        template.IsExpressible) ∧
    (∀ template : Template ν, template.IsExpressible →
      template.toJson.DistinctKeys ∧ ofJson template.toJson = .ok template) ∧
    (∀ (place : Json.Place) (selector : String) (before nested after : List (String × Json)),
      (∀ entry ∈ nested, Json.IsNest entry) →
        ofJson (ν := ν) (.object
            [(selector, place.fill (.object (before ++ nested ++ after)))]) =
          ofJson (.object [(selector, place.fill (.object
            (before ++ (childrenKey, .array (nested.flatMap Json.childItems)) :: after)))])) ∧
    ∀ (place : Json.Place) (selector : String) (members others : List (String × Json)),
      members.filter Json.holdsChildren = others.filter Json.holdsChildren →
      members.filter (!Json.holdsChildren ·) = others.filter (!Json.holdsChildren ·) →
        ofJson (ν := ν) (.object [(selector, place.fill (.object members))]) =
          ofJson (.object [(selector, place.fill (.object others))]) := by
  refine ⟨fun template => ⟨?_, fun h => ?_⟩, fun template h => ?_, ?_, ?_⟩
  · rintro ⟨value, hkeys, hof⟩
    exact (isExpressible_of_ofJson hkeys).1 template hof
  · obtain ⟨hof, hkeys⟩ := ofJson_toJson_and_distinctKeys h
    exact ⟨template.toJson, hkeys, hof⟩
  · exact (ofJson_toJson_and_distinctKeys h).symm
  · intro place selector before nested after hnested
    rw [ofJson_single, ofJson_single]
    rw [Content.ofJson_fill fun _ => Content.ofJson_gather hnested before after]
  · intro place selector members others hchildren hproperties
    rw [ofJson_single, ofJson_single]
    rw [Content.ofJson_fill fun _ => Content.ofJson_of_filter_eq hchildren hproperties]

end Template

/-- An element with a property and with children. -/
def card : Template String :=
  .element "article" (.bag ⟨[.attr "width" (.number (.integer 3)), .style "color: red"],
    [.element "h1.top" (.text "Tea"), .element "p.note" (.items [])]⟩)

theorem expressed_card :
    let width : String × Json := ("width", .number (.integer 3))
    let css : String × Json := ("style", .string "color: red")
    let top : String × Json := ("h1.top", .string "Tea")
    let note : String × Json := ("p.note", .array [])
    let article (members : List (String × Json)) : Json := .object [("article", .object members)]
    let listed := article [width, css, ("children", .array [.object [top], .object [note]])]
    card.toJson = listed ∧ listed.DistinctKeys ∧ Template.ofJson listed = .ok card ∧
      Template.ofJson (article [width, css, top, note]) = .ok card ∧
      Template.ofJson (article [width, top, css, note]) = .ok card := by
  intro width css top note article listed
  have hexpressible : card.IsExpressible := by
    refine ⟨⟨_, _, rfl⟩, rfl, List.forall_mem_cons.mpr ⟨⟨?_, ?_, ?_, ?_⟩, nofun⟩⟩
    · decide
    · decide
    · decide
    · decide
  have hcard : card.toJson = listed := rfl
  obtain ⟨-, hwritten, hgather, hmove⟩ := Template.expressed_by_json (ν := String)
  obtain ⟨hkeys, hlisted⟩ := hwritten card hexpressible
  have hchild : ∀ entry ∈ [top, note], Json.IsNest entry := by
    refine List.forall_mem_cons.mpr ⟨.inl ⟨by decide, .inr (.inl (by decide))⟩, ?_⟩
    exact List.forall_mem_singleton.mpr (.inl ⟨by decide, .inl rfl⟩)
  have hnested : Template.ofJson (article [width, css, top, note]) = .ok card :=
    (hgather .here "article" [width, css] [top, note] [] hchild).trans hlisted
  have htop : Json.holdsChildren top = true := by decide
  have hcss : Json.holdsChildren css = false := by decide
  have hmoved : Template.ofJson (article [width, top, css, note]) =
      Template.ofJson (article [width, css, top, note]) :=
    hmove .here "article" [width, top, css, note] [width, css, top, note]
      (by simp only [List.filter_cons, htop, hcss, if_true, Bool.false_eq_true, if_false])
      (by simp only [List.filter_cons, htop, hcss, Bool.not_true, Bool.not_false, if_true,
        Bool.false_eq_true, if_false])
  exact ⟨hcard, hkeys, hlisted, hnested, hmoved.trans hnested⟩

end TemplateTree
