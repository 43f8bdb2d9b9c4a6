import TemplateTree.Proofs.Build.Embedding

/-! # Builds that move nodes

What becomes of a forest when a template with embedded nodes is built in it. The first part at
fault decides how the build ends, nothing is removed on the way, and a build that succeeds
moves every embedded node to its last place in the template. -/

namespace TemplateTree

theorem Part.fault?_ne_hierarchyRequest (config : BuildConfig) (live : NodeId → Bool)
    (part : Part NodeId) : part.fault? config live ≠ some (.target .hierarchyRequest) := by
  unfold fault?
  cases part with
  | element depth data =>
      simp only
      split
      · simp
      · split <;> simp
  | held node =>
      simp only
      split <;> simp

namespace Template

variable {dom : Dom} {template : Template NodeId}

open FirstFault

theorem build_built (hf : dom.IsForest) (config : BuildConfig)
    (hh : ∀ id ∈ template.handles, id.index < dom.issued) :
    Build.Built config dom.contains (template.parts config.defaultTag 0)
      (template.links dom.issued) (template.nodeAt dom.issued) dom
      (template.build config dom).result (template.build config dom).target :=
  Build.template_built config template 0 hh ⟨hf, Nat.le_refl _, fun _ => rfl⟩ []

/-- A build of a template whose embedded nodes have been in the forest ends with the first part
at fault in document order, and succeeds when there is none. It never makes a cycle, removes no
node, and adds the elements before the fault. -/
theorem build_decided (hdom : dom.Reachable) (config : BuildConfig)
    (hissued : ∀ id ∈ template.handles, id.index < dom.issued) :
    let parts := template.parts config.defaultTag 0
    let fault? := Part.fault? config dom.contains
    let run := template.build config dom
    run.result = outcome fault? parts (template.nodeAt dom.issued) ∧
      run.result ≠ .error (.target .hierarchyRequest) ∧
      (∀ id, dom.contains id → run.target.contains id) ∧
      run.target.size = dom.size + (Part.elements (reached fault? parts)).length := by
  intro parts fault? run
  have hb := build_built hdom.isForest config hissued
  obtain ⟨made, hg⟩ := hb.grown
  refine ⟨hb.result_eq, ?_, fun id => hg.contains, hg.size⟩
  intro hcycle
  obtain ⟨part, -, hp⟩ := List.exists_of_findSome?_eq_some
    (outcome_eq_error (hcycle.symm.trans hb.result_eq))
  exact part.fault?_ne_hierarchyRequest config dom.contains hp

/-- A list that embeds a node and its child in one of its items, around further places for
the child and for `last`. -/
def graft (last : NodeId) : Template NodeId :=
  .element "ul" (.items [.node ⟨1⟩,
    .element "li" (.bag { properties := [.html "x"], children := [.node ⟨0⟩, .node ⟨1⟩] }),
    .node last, .element "p" (.text "y")])

/-- A node with a child, and a third node that is gone. -/
def stock : Dom :=
  Dom.empty.applyAll [.insert { tag := "a" }, .insert { tag := "b" }, .append ⟨0⟩ ⟨1⟩,
    .insert { tag := "i" }, .remove ⟨2⟩]

theorem stock_reachable : stock.Reachable :=
  ⟨_, rfl⟩

theorem build_graft_of_gone :
    let run := (graft ⟨2⟩).build {} stock
    stock.Reachable ∧ (∀ id ∈ (graft ⟨2⟩).handles, id.index < stock.issued) ∧
      run.result = .error (.target .nodeNotFound) ∧
      run.target.contains ⟨0⟩ ∧ run.target.contains ⟨1⟩ ∧ run.target.size = 4 := by
  intro run
  have hissued : ∀ id ∈ (graft ⟨2⟩).handles, id.index < stock.issued := by decide +kernel
  obtain ⟨hresult, -, hlive, hsize⟩ := build_decided stock_reachable {} hissued
  refine ⟨stock_reachable, hissued, hresult.trans ?_, ?_, ?_, hsize.trans ?_⟩
  · decide +kernel
  · exact hlive ⟨0⟩ (by decide +kernel)
  · exact hlive ⟨1⟩ (by decide +kernel)
  · decide +kernel

/-- A build that succeeds makes all elements and all links. -/
theorem build_grows (hf : dom.IsForest) (config : BuildConfig)
    (hh : ∀ id ∈ template.handles, id.index < dom.issued) {root : NodeId}
    (hok : (template.build config dom).result = .ok root) :
    root = template.nodeAt dom.issued ∧
      dom.GrownBy (Part.elements (template.parts config.defaultTag 0))
        (template.links dom.issued) (template.build config dom).target := by
  have hb := build_built hf config hh
  obtain ⟨hroot, hnone⟩ := outcome_eq_ok (hok.symm.trans hb.result_eq)
  exact ⟨hroot, hb.linked hnone⟩

/-- A build that succeeds leaves all nodes of before as they are but for their links. There the
embedded nodes leave the child lists they were in, and each of them goes below the element of
its last place in the template. The children of a new element are its items in order, a node
that is embedded again later left out. -/
theorem build_moves (hdom : dom.Reachable) (config : BuildConfig)
    (hlive : ∀ id ∈ template.handles, dom.contains id) {root : NodeId}
    (hok : (template.build config dom).result = .ok root) :
    let after := (template.build config dom).target
    let links := template.links dom.issued
    let new := newIds dom.issued template.count
    (∀ id, dom.contains id → after.element? id = dom.element? id) ∧
      (∀ id, dom.contains id → id ∉ template.embedded → after.parent? id = dom.parent? id) ∧
      (∀ id, dom.contains id →
        after.children id = (dom.children id).filter (· ∉ template.embedded)) ∧
      (∀ id ∈ template.embedded, ∃ holder ∈ new,
        Link.holder? links id = some holder ∧ after.parent? id = some holder) ∧
      (∀ id ∈ new, after.children id = Link.below (Link.lasting links) id) ∧
      root = template.nodeAt dom.issued ∧
      ∀ number, after.element? ⟨dom.issued + number⟩ =
        (Part.elements (template.parts config.defaultTag 0))[number]? := by
  intro after links new
  have hf : dom.IsForest := hdom.isForest
  have hissued : ∀ id ∈ template.handles, id.index < dom.issued :=
    fun id hid => dom.index_lt_issued (hlive id hid)
  obtain ⟨hroot, hg⟩ := build_grows hf config hissued hok
  refine ⟨?_, ?_, ?_, ?_, ?_, hroot, hg.element?_new⟩
  · intro id hid
    rw [hg.element?, if_pos (dom.index_lt_issued hid)]
  · intro id hid hn
    rw [← mem_links_iff_of_lt (dom.index_lt_issued hid)] at hn
    rw [hg.parent?, Link.holder?_eq_none hn, Option.none_or]
  · intro id hid
    rw [hg.children, below_links_of_lt (dom.index_lt_issued hid), List.append_nil]
    apply List.filter_congr
    intro child hc
    have hlt : child.index < dom.issued := dom.index_lt_issued (hf.mem_children_live hc)
    exact decide_eq_decide.mpr (not_congr (mem_links_iff_of_lt hlt))
  · intro id hid
    have hlt : id.index < dom.issued := hissued id (template.embedded_subset hid)
    obtain ⟨link, hl, hholder⟩ := Link.exists_holder? ((mem_links_iff_of_lt hlt).mpr hid)
    refine ⟨link.holder, template.holder_mem dom.issued link hl, hholder, ?_⟩
    rw [hg.parent?, hholder, Option.some_or]
  · intro id hid
    have hgone : dom.contains id = false := dom.contains_of_issued_le (mem_newIds.mp hid).1
    rw [hg.children, hf.children_of_not_contains hgone]
    rfl

theorem build_graft_twice :
    let after := ((graft ⟨0⟩).build {} stock).target
    (∀ id ∈ (graft ⟨0⟩).handles, stock.contains id) ∧
      ((graft ⟨0⟩).build {} stock).result = .ok ⟨3⟩ ∧
      after.element? ⟨0⟩ = stock.element? ⟨0⟩ ∧ after.children ⟨0⟩ = [] ∧
      after.parent? ⟨0⟩ = some ⟨3⟩ ∧ after.children ⟨3⟩ = [⟨4⟩, ⟨0⟩, ⟨5⟩] ∧
      after.children ⟨4⟩ = [⟨1⟩] := by
  intro after
  have hlive : ∀ id ∈ (graft ⟨0⟩).handles, stock.contains id := by decide +kernel
  have hok : ((graft ⟨0⟩).build {} stock).result = .ok ⟨3⟩ := by decide +kernel
  obtain ⟨helement, -, hold, hembedded, hnew, -, -⟩ :=
    build_moves stock_reachable {} hlive hok
  have h0 : stock.contains ⟨0⟩ := by decide +kernel
  refine ⟨hlive, hok, helement _ h0, (hold _ h0).trans ?_, ?_, ?_, ?_⟩
  · decide +kernel
  · obtain ⟨holder, -, hholder, hparent⟩ := hembedded ⟨0⟩ (by decide +kernel)
    have hlast : Link.holder? ((graft ⟨0⟩).links stock.issued) ⟨0⟩ = some ⟨3⟩ := by decide +kernel
    rw [hparent, ← hholder, hlast]
  · exact (hnew ⟨3⟩ (by decide +kernel)).trans (by decide +kernel)
  · exact (hnew ⟨4⟩ (by decide +kernel)).trans (by decide +kernel)

end Template

end TemplateTree
