import Mathlib.Data.List.Lex
import Mathlib.Data.List.Range
import Mathlib.Order.Fin.Basic
import TemplateTree.Proofs.Dom.Walk

/-! # Paths

A path of child indices leads from a node to a node below it. Every node of a walk has one path
from its start, which is as long as the way up, and a walk goes through the paths in their
lexicographic order. -/

namespace TemplateTree.Dom

variable {dom : Dom} {start id : NodeId} {path : List Nat}

/-! ## Single paths -/

theorem descendant?_nil (dom : Dom) (start : NodeId) :
    dom.descendant? start [] = some start := rfl

theorem descendant?_cons (dom : Dom) (start : NodeId) (index : Nat) (path : List Nat) :
    dom.descendant? start (index :: path) =
      (dom.children start)[index]?.bind (dom.descendant? · path) := rfl

namespace IsForest

/-- The way up from the end of a path takes as many steps as the path, and goes on as from its
start. -/
theorem exists_above (hf : dom.IsForest) (h : dom.descendant? start path = some id) :
    ∃ above, id :: dom.ancestors id = above ++ start :: dom.ancestors start ∧
      above.length = path.length := by
  induction path generalizing start with
  | nil =>
      cases h
      exact ⟨[], rfl, rfl⟩
  | cons index path ih =>
      obtain ⟨child, hc, hrest⟩ := Option.bind_eq_some_iff.mp h
      obtain ⟨above, habove, hlength⟩ := ih hrest
      refine ⟨above ++ [child], ?_, by simp [hlength]⟩
      rw [habove, hf.ancestors_of_mem_children (List.mem_of_getElem? hc), List.append_assoc]
      rfl

/-- The start comes that far up from the end. -/
theorem idxOf_start (hf : dom.IsForest) (h : dom.descendant? start path = some id) :
    (id :: dom.ancestors id).idxOf start = path.length := by
  obtain ⟨above, habove, hlength⟩ := hf.exists_above h
  have hn := hf.ancestors_nodup id
  rw [habove, List.nodup_append] at hn
  have hnot : start ∉ above := fun hm => hn.2.2 start hm start List.mem_cons_self rfl
  rw [habove, List.idxOf_append_of_notMem hnot, List.idxOf_cons_self, hlength, Nat.add_zero]

theorem length_path (hf : dom.IsForest) (h : dom.descendant? start path = some id) :
    path.length = if id = start then 0 else (dom.ancestors id).idxOf start + 1 := by
  rw [← hf.idxOf_start h]
  split
  · rename_i heq
    rw [heq, List.idxOf_cons_self]
  · rename_i hne
    exact List.idxOf_cons_ne _ hne

end IsForest

/-! ## All paths -/

/-- The paths from a node with the nodes that they lead to, each before those through it. -/
def placed (dom : Dom) : NodeId → List (List Nat × NodeId) :=
  dom.fold fun id below => ([], id) :: below.zipIdx.flatMap fun (places, index) =>
    places.map fun (path, node) => (index :: path, node)

namespace IsForest

theorem placed_eq (hf : dom.IsForest) (start : NodeId) :
    dom.placed start = ([], start) :: (dom.children start).zipIdx.flatMap fun (child, index) =>
      (dom.placed child).map fun (path, node) => (index :: path, node) := by
  rw [placed, hf.fold_eq, List.zipIdx_map, List.flatMap_map]
  rfl

theorem mem_placed (hf : dom.IsForest) :
    (path, id) ∈ dom.placed start ↔ dom.descendant? start path = some id := by
  induction path generalizing start with
  | nil =>
      rw [hf.placed_eq, descendant?_nil]
      simp [eq_comm]
  | cons index path ih =>
      rw [hf.placed_eq, descendant?_cons, Option.bind_eq_some_iff]
      simp only [List.mem_cons, List.mem_flatMap, List.mem_map, List.mem_zipIdx_iff_getElem?,
        Prod.exists, Prod.mk.injEq, List.cons.injEq]
      constructor
      · rintro (⟨hnil, -⟩ | ⟨child, step, hc, rest, low, hm, ⟨rfl, rfl⟩, rfl⟩)
        · cases hnil
        · exact ⟨child, hc, ih.mp hm⟩
      · rintro ⟨child, hc, hrest⟩
        exact .inr ⟨child, index, hc, path, id, ih.mpr hrest, ⟨rfl, rfl⟩, rfl⟩

/-- Without their paths the places are the nodes in document order. -/
theorem map_snd_placed (hf : dom.IsForest) (start : NodeId) :
    (dom.placed start).map Prod.snd = dom.preorder start := by
  induction start using hf.induction with
  | step start ih =>
      rw [hf.placed_eq, hf.preorder_eq, List.map_cons, List.map_flatMap]
      conv_rhs => rw [← List.zipIdx_map_fst 0 (dom.children start), List.flatMap_map]
      congr 1
      apply List.flatMap_congr
      rintro ⟨child, index⟩ hc
      rw [← ih child (List.mem_of_getElem? (List.mem_zipIdx_iff_getElem?.mp hc)), List.map_map]
      rfl

/-- A path comes before all paths through it, and these come in the order of their next steps. -/
theorem placed_pairwise (hf : dom.IsForest) (start : NodeId) :
    (dom.placed start).Pairwise fun first second => first.1 < second.1 := by
  induction start using hf.induction with
  | step start ih =>
      have hsteps : (dom.children start).zipIdx.Pairwise fun first second =>
          first.2 < second.2 := by
        rw [← List.pairwise_map, List.zipIdx_map_snd]
        exact List.pairwise_lt_range' 1
      rw [hf.placed_eq, List.pairwise_cons, List.pairwise_flatMap]
      refine ⟨?_, ?_, hsteps.imp ?_⟩
      · intro place hp
        obtain ⟨step, -, hm⟩ := List.mem_flatMap.mp hp
        obtain ⟨below, -, rfl⟩ := List.mem_map.mp hm
        exact List.nil_lt_cons _ _
      · rintro ⟨child, index⟩ hc
        rw [List.pairwise_map]
        exact (ih child (List.mem_of_getElem? (List.mem_zipIdx_iff_getElem?.mp hc))).imp
          List.cons_lt_cons_self.mpr
      · intro first second hlt place hp other ho
        obtain ⟨below, -, rfl⟩ := List.mem_map.mp hp
        obtain ⟨below', -, rfl⟩ := List.mem_map.mp ho
        exact List.cons_lt_cons_iff.mpr (.inl hlt)

end IsForest

/-- In a row of places without repetition the nodes stand in the order of their paths. -/
theorem idxOf_lt_idxOf_iff {places : List (List Nat × NodeId)}
    (hp : places.Pairwise fun first second => first.1 < second.1)
    (hn : (places.map Prod.snd).Nodup) {first second : List Nat} {low high : NodeId}
    (h₁ : (first, low) ∈ places) (h₂ : (second, high) ∈ places) :
    (places.map Prod.snd).idxOf low < (places.map Prod.snd).idxOf high ↔ first < second := by
  obtain ⟨i, hi, hfirst⟩ := List.getElem_of_mem h₁
  obtain ⟨j, hj, hsecond⟩ := List.getElem_of_mem h₂
  have hidx : ∀ k (hk : k < places.length), (places.map Prod.snd).idxOf places[k].2 = k := by
    intro k hk
    have hget := hn.idxOf_getElem k (by simpa using hk)
    rwa [List.getElem_map] at hget
  have hmono : StrictMono fun k : Fin places.length => places[k].1 :=
    fun k l hkl => List.pairwise_iff_getElem.mp hp k l k.2 l.2 hkl
  have horder := hmono.lt_iff_lt (a := ⟨i, hi⟩) (b := ⟨j, hj⟩)
  have hlow := hidx i hi
  have hhigh := hidx j hj
  simp only [Fin.getElem_fin, hfirst, hsecond, Fin.mk_lt_mk] at horder hlow hhigh
  rw [hlow, hhigh, horder]

/-- The nodes of a walk are those that paths from its start lead to, each by one path, which has
as many steps as there are ancestors of the node up to the start. The walk takes the nodes in
the lexicographic order of their paths. -/
theorem paths_name_walk (hdom : dom.Reachable) (hl : dom.contains start) :
    (∀ id, id ∈ dom.walk start ↔ ∃ path, dom.descendant? start path = some id) ∧
      (∀ id first second, dom.descendant? start first = some id →
        dom.descendant? start second = some id → first = second) ∧
      (∀ id path, dom.descendant? start path = some id →
        (id ≠ start → start ∈ dom.ancestors id) ∧
        path.length = if id = start then 0 else (dom.ancestors id).idxOf start + 1) ∧
      ∀ low high first second, dom.descendant? start first = some low →
        dom.descendant? start second = some high →
        ((dom.walk start).idxOf low < (dom.walk start).idxOf high ↔ first < second) := by
  have hf : dom.IsForest := hdom.isForest
  have hwalk : (dom.placed start).map Prod.snd = dom.walk start := by
    rw [hf.map_snd_placed, hf.walk_eq_preorder hl]
  have hn : ((dom.placed start).map Prod.snd).Nodup := by
    rw [hwalk]
    exact hf.walk_nodup start
  have hmem : ∀ id, id ∈ dom.walk start ↔ ∃ path, dom.descendant? start path = some id := by
    intro id
    rw [← hwalk, List.mem_map]
    constructor
    · rintro ⟨⟨path, node⟩, hm, rfl⟩
      exact ⟨path, hf.mem_placed.mp hm⟩
    · rintro ⟨path, hpath⟩
      exact ⟨(path, id), hf.mem_placed.mpr hpath, rfl⟩
  refine ⟨hmem, ?_, fun id path hpath => ⟨fun hne => ?_, hf.length_path hpath⟩, ?_⟩
  · intro id first second h₁ h₂
    exact congrArg Prod.fst
      (List.inj_on_of_nodup_map hn (hf.mem_placed.mpr h₁) (hf.mem_placed.mpr h₂) rfl)
  · have hw : id ∈ dom.walk start := (hmem id).mpr ⟨path, hpath⟩
    rw [hf.mem_walk hl, hf.below_iff] at hw
    exact hw.resolve_left hne
  · intro low high first second h₁ h₂
    rw [← hwalk]
    exact idxOf_lt_idxOf_iff (hf.placed_pairwise start) hn (hf.mem_placed.mpr h₁)
      (hf.mem_placed.mpr h₂)

/-- The link in the first item comes before the second item. -/
theorem paths_linkList :
    linkList.Reachable ∧ linkList.contains ⟨0⟩ ∧
      linkList.descendant? ⟨0⟩ [0, 0] = some ⟨3⟩ ∧ linkList.descendant? ⟨0⟩ [1] = some ⟨4⟩ ∧
      ⟨3⟩ ∈ linkList.walk ⟨0⟩ ∧
      (∀ path, linkList.descendant? ⟨0⟩ path = some ⟨3⟩ → path = [0, 0]) ∧
      (linkList.ancestors ⟨3⟩).idxOf ⟨0⟩ + 1 = 2 ∧
      (linkList.walk ⟨0⟩).idxOf ⟨3⟩ < (linkList.walk ⟨0⟩).idxOf ⟨4⟩ := by
  have hdom : linkList.Reachable := ⟨_, rfl⟩
  have hl : linkList.contains ⟨0⟩ := by decide +kernel
  have hlink : linkList.descendant? ⟨0⟩ [0, 0] = some ⟨3⟩ := by decide +kernel
  have hlast : linkList.descendant? ⟨0⟩ [1] = some ⟨4⟩ := by decide +kernel
  obtain ⟨hmem, honly, hlength, horder⟩ := paths_name_walk hdom hl
  have hsteps := (hlength ⟨3⟩ [0, 0] hlink).2
  rw [if_neg (by decide)] at hsteps
  exact ⟨hdom, hl, hlink, hlast, (hmem _).mpr ⟨_, hlink⟩, fun path h => honly _ _ _ h hlink,
    hsteps.symm, (horder _ _ _ _ hlink hlast).mpr (by decide)⟩

end TemplateTree.Dom
