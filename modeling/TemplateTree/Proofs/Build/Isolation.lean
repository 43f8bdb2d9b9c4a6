import TemplateTree.Proofs.Build.Aborted

/-! # Isolation of builds

A build without embedded nodes and what was there before it have nothing to do with each other,
also when the build fails half-way. -/

namespace TemplateTree

namespace Dom

/-- A node that is live now and was not before. -/
def Added (before after : Dom) (id : NodeId) : Prop :=
  after.contains id ∧ ¬ before.contains id

section

variable {before after : Dom} {id : NodeId}

namespace Extends

variable (hf : before.IsForest) (h : before.Extends (·.index < before.issued) after)

include hf h

theorem added_parent {parent : NodeId} (hid : before.Added after id)
    (hp : after.parent? id = some parent) : before.Added after parent := by
  refine ⟨h.isForest.parent_live hp, fun hold => hid.2 ?_⟩
  have hchild : id ∈ after.children parent := h.isForest.mem_children.mpr hp
  rw [h.agree.children (before.index_lt_issued hold)] at hchild
  exact hf.mem_children_live hchild

theorem added_child {child : NodeId} (hid : before.Added after id)
    (hc : child ∈ after.children id) : before.Added after child := by
  refine ⟨h.isForest.mem_children_live hc, fun hold => hid.2 ?_⟩
  have hparent := h.isForest.mem_children.mp hc
  rw [h.agree.parent? (before.index_lt_issued hold)] at hparent
  exact hf.parent_live hparent

/-- Links lead from added nodes to added nodes, both upwards and downwards. -/
theorem added_iff_of_below {low high : NodeId} (hb : after.Below low high) :
    before.Added after low ↔ before.Added after high := by
  induction hb using Relation.ReflTransGen.head_induction_on with
  | refl => exact Iff.rfl
  | head hp _ ih =>
      rw [← ih]
      exact ⟨fun hlow => h.added_parent hf hlow hp,
        fun hparent => h.added_child hf hparent (h.isForest.mem_children.mpr hp)⟩

/-- A single added node without a parent has all the others below it. -/
theorem added_iff_mem_walk {root : NodeId}
    (hroots : ∀ id, before.Added after id ∧ after.parent? id = none ↔ id = root) (id : NodeId) :
    before.Added after id ↔ id ∈ after.walk root := by
  have hroot := ((hroots root).mpr rfl).1
  rw [h.isForest.mem_walk hroot.1]
  constructor
  · intro hid
    obtain ⟨top, hb, htop⟩ := h.isForest.exists_top id
    have hadded := (h.added_iff_of_below hf hb).mp hid
    rwa [(hroots top).mp ⟨hadded, htop⟩] at hb
  · exact fun hb => (h.added_iff_of_below hf hb).mpr hroot

end Extends

namespace GrownBy

variable {elements : List Element} {links : List Link} (h : before.GrownBy elements links after)

include h

theorem added_iff_mem_newIds :
    before.Added after id ↔ id ∈ newIds before.issued elements.length := by
  rw [Added, mem_newIds, ← h.issued]
  constructor
  · rintro ⟨hlive, hold⟩
    refine ⟨Nat.le_of_not_lt fun hlt => hold ?_, after.index_lt_issued hlive⟩
    rwa [← h.contains_eq hlt]
  · rintro ⟨hge, hlt⟩
    rw [h.issued] at hlt
    have hlive : after.contains ⟨before.issued + (id.index - before.issued)⟩ :=
      h.contains_new (by omega)
    rw [Nat.add_sub_cancel' hge] at hlive
    exact ⟨hlive, by simp [before.contains_of_issued_le hge]⟩

/-- The added nodes without a parent are those that no link has been made to. -/
theorem added_roots (hf : before.IsForest) {roots : List NodeId}
    (hroots : (roots ++ links.map Link.child).Perm (newIds before.issued elements.length)) :
    before.Added after id ∧ after.parent? id = none ↔ id ∈ roots := by
  have hdisjoint := List.disjoint_of_nodup_append (hroots.nodup_iff.mpr (nodup_newIds ..))
  have hparent (hid : before.Added after id) :
      after.parent? id = none ↔ id ∉ links.map Link.child := by
    rw [h.parent?, hf.parent?_of_not_contains (Bool.eq_false_iff.mpr hid.2), Option.or_none]
    refine ⟨fun hnone hl => ?_, Link.holder?_eq_none⟩
    obtain ⟨link, -, hsome⟩ := Link.exists_holder? hl
    cases hnone.symm.trans hsome
  constructor
  · rintro ⟨hid, hnone⟩
    have hm := hroots.mem_iff.mpr (h.added_iff_mem_newIds.mp hid)
    exact (List.mem_append.mp hm).resolve_right ((hparent hid).mp hnone)
  · intro hr
    have hid := h.added_iff_mem_newIds.mpr (hroots.mem_iff.mp (List.mem_append_left _ hr))
    exact ⟨hid, (hparent hid).mpr fun hl => hdisjoint hr hl⟩

end GrownBy

end

end Dom

namespace Template

variable {dom : Dom} {template : Template NodeId}

open FirstFault

theorem index_lt_issued_of_handles (dom : Dom) (ht : template.handles = []) :
    ∀ id ∈ template.handles, id.index < dom.issued := by
  rw [ht]
  nofun

theorem build_extends (hf : dom.IsForest) (config : BuildConfig) (ht : template.handles = []) :
    dom.Extends (·.index < dom.issued) (template.build config dom).target :=
  (Build.template_grows config (fun _ => .node { tag := "" } []) template ht hf []).1

/-- A build that fails has begun the elements around the first one at fault. -/
theorem build_aborted (hf : dom.IsForest) {config : BuildConfig} (ht : template.handles = [])
    {fault : BuildFault DomFault} (herror : (template.build config dom).result = .error fault) :
    ∃ place text content, template = Place.fill (.element text content) place ∧
      (∀ part ∈ Template.partsDown config.defaultTag 0 place.begun,
        part.fault? config dom.contains = none) ∧
      (Part.element place.levels (content.element
        (Selector.parseWith config.defaultTag text))).fault? config dom.contains = some fault ∧
      dom.GrownBy (Part.elements (Template.partsDown config.defaultTag 0 place.begun))
        (Template.linksDown dom.issued place.begun) (template.build config dom).target := by
  have hb := build_built hf config (index_lt_issued_of_handles dom ht)
  have hsome := outcome_eq_error (herror.symm.trans hb.result_eq)
  obtain ⟨place, text, content, rfl, hbegun, hfault⟩ := template.stopsAt 0 ht hsome
  rw [List.findSome?_eq_none_iff] at hbegun
  have hs : Build.Since dom dom := ⟨hf, Nat.le_refl _, fun _ => rfl⟩
  have hg := (Build.place_aborted place 0 ht hs hbegun hfault []).2
  rw [Nat.zero_add] at hfault
  exact ⟨place, text, content, rfl, hbegun, hfault, hg⟩

/-- A build without embedded nodes leaves all nodes of before as they are and makes no link
between them and its own. When it succeeds its nodes are one tree. When it fails, the ones
without a parent are the elements around the first element at fault; each of them has its
finished items from before that element as children. -/
theorem build_isolated (hdom : dom.Reachable) (config : BuildConfig) (ht : template.handles = [])
    (held : NodeId → ElementTree) :
    let run := template.build config dom
    let after := run.target
    let fault? := Part.fault? config dom.contains
    (∀ id, dom.contains id → after.contains id ∧ after.element? id = dom.element? id ∧
        after.parent? id = dom.parent? id ∧ after.children id = dom.children id) ∧
      (∀ id, dom.Added after id →
        (∀ parent, after.parent? id = some parent → dom.Added after parent) ∧
          ∀ child ∈ after.children id, dom.Added after child) ∧
      (∀ root, run.result = .ok root → dom.Added after root ∧ after.parent? root = none ∧
        ∀ id, dom.Added after id ↔ id ∈ after.walk root) ∧
      ∀ fault, run.result = .error fault → ∃ (place : Place NodeId) (text : String)
        (content : Content NodeId) (later : List (Part NodeId)),
        let begun := Template.partsDown config.defaultTag 0 place.begun
        let culprit := Part.element place.levels
          (content.element (Selector.parseWith config.defaultTag text))
        let roots := Template.rootsDown config held dom.issued place.begun
        template = place.fill (.element text content) ∧
          template.parts config.defaultTag 0 = begun ++ culprit :: later ∧
          (∀ part ∈ begun, fault? part = none) ∧ fault? culprit = some fault ∧
          (∀ id, dom.Added after id ∧ after.parent? id = none ↔ id ∈ roots.map Prod.fst) ∧
          ∀ root ∈ roots, after.tree? root.1 = some root.2 := by
  intro run after fault?
  have hf : dom.IsForest := hdom.isForest
  have hx := build_extends hf config ht
  refine ⟨?_, ?_, ?_, ?_⟩
  · intro id hid
    have hlt := dom.index_lt_issued hid
    exact ⟨(hx.agree.contains hlt).trans hid, hx.agree.element? hlt, hx.agree.parent? hlt,
      hx.agree.children hlt⟩
  · exact fun id hid => ⟨fun _ hp => hx.added_parent hf hid hp,
      fun _ hc => hx.added_child hf hid hc⟩
  · intro root hok
    obtain ⟨hroot, hg⟩ := build_grows hf config (index_lt_issued_of_handles dom ht) hok
    have hperm := template.nodes_perm dom.issued
    rw [ht, List.nil_append, ← hroot, ← length_elements config.defaultTag template 0,
      ← List.singleton_append] at hperm
    have hroots (id : NodeId) : dom.Added after id ∧ after.parent? id = none ↔ id = root :=
      (hg.added_roots hf hperm).trans List.mem_singleton
    obtain ⟨hadded, hparent⟩ := (hroots root).mpr rfl
    exact ⟨hadded, hparent, hx.added_iff_mem_walk hf hroots⟩
  · intro fault herror
    obtain ⟨place, text, content, rfl, hbegun, hfault, hg⟩ := build_aborted hf ht herror
    obtain ⟨later, hparts⟩ := place.exists_parts_fill config.defaultTag 0 text content
    rw [Nat.zero_add] at hparts
    have hh : handlesOf place.begun = [] := Place.handlesOf_begun ht
    have hperm := rootsDown_perm config held hh dom.issued
    rw [← length_partsDown config.defaultTag 0] at hperm
    have hn : ((linksDown dom.issued place.begun).map Link.child).Nodup :=
      (List.nodup_append.mp (hperm.nodup_iff.mpr (nodup_newIds ..))).2.1
    exact ⟨place, text, content, later, rfl, hparts, hbegun, hfault,
      fun id => hg.added_roots hf hperm,
      tree?_of_mem_rootsDown hg.isForest hh (hg.shows hf hn)⟩

/-- A list with an item that has an element with this selector between two others. -/
def stacked (selector : String) : Template NodeId :=
  .element "ul" (.bag {
    properties := [.html "x"]
    children := [.element "li" (.text "1"), .element "li" (.items [.element "b" (.text "2"),
      .element selector (.items []), .element "i" (.items [])]), .element "p" (.items [])] })

theorem build_stacked_isolated :
    let held : NodeId → ElementTree := fun _ => .node { tag := "p" } []
    let whole := ((stacked "q").build {} stock).target
    let after := ((stacked "a<b").build {} stock).target
    stock.Reachable ∧ (stacked "q").handles = [] ∧ (stacked "a<b").handles = [] ∧
      ((stacked "q").build {} stock).result = .ok ⟨3⟩ ∧
      (∀ id, stock.Added whole id ↔ id ∈ whole.walk ⟨3⟩) ∧
      ((stacked "a<b").build {} stock).result = .error (.target (.invalidTagName "a<b")) ∧
      after.parent? ⟨1⟩ = some ⟨0⟩ ∧
      (∃ place text content, stacked "a<b" = Place.fill (.element text content) place ∧
        ∀ id, stock.Added after id ∧ after.parent? id = none ↔
          id ∈ (rootsDown {} held stock.issued place.begun).map Prod.fst) ∧
      after.html ⟨3⟩ = "<ul>x<li>1</li></ul>" ∧ after.html ⟨5⟩ = "<li><b>2</b></li>" := by
  intro held whole after
  have hok : ((stacked "q").build {} stock).result = .ok ⟨3⟩ := by decide +kernel
  have herror : ((stacked "a<b").build {} stock).result =
      .error (.target (.invalidTagName "a<b")) := by decide +kernel
  have hwhole : (stacked "q").handles = [] := rfl
  have hplain : (stacked "a<b").handles = [] := rfl
  obtain ⟨-, -, htree, -⟩ := build_isolated stock_reachable {} hwhole held
  obtain ⟨hold, -, -, hbegun⟩ := build_isolated stock_reachable {} hplain held
  obtain ⟨place, text, content, -, hfill, -, -, -, hroots, -⟩ := hbegun _ herror
  have hparent := (hold ⟨1⟩ (by decide +kernel)).2.2.1
  exact ⟨stock_reachable, hwhole, hplain, hok, (htree _ hok).2.2, herror,
    hparent.trans (by decide +kernel), ⟨place, text, content, hfill, hroots⟩,
    by decide +kernel, by decide +kernel⟩

end Template

end TemplateTree
