import TemplateTree.Dom.Html
import TemplateTree.Proofs.Dom.Walk

/-! # Writing nodes

HTML is written by a recursion on nodes that has no bound of its own. In a forest it ends, and
the start tags that it writes are those of the walk without what void elements hide. -/

namespace TemplateTree.Dom

open Html

variable {dom : Dom} {start id : NodeId}

/-- Writing nodes one after the other, with the nodes that get a start tag, in order, and the
text. Nodes that are gone write nothing, and void ones a start tag alone. -/
inductive Writes (dom : Dom) : List NodeId → List NodeId → String → Prop where
  | done : Writes dom [] [] ""
  | gone {id rest starts out} (h : dom.element? id = none) :
      Writes dom rest starts out → Writes dom (id :: rest) starts out
  | void {id rest starts out} {element : Element} (h : dom.element? id = some element)
      (hv : isVoidTag element.tag) : Writes dom rest starts out →
      Writes dom (id :: rest) (id :: starts) (startTag element ++ out)
  | element {id rest below inner starts out} {element : Element}
      (h : dom.element? id = some element) (hv : isVoidTag element.tag = false) :
      Writes dom (dom.children id) below inner → Writes dom rest starts out →
      Writes dom (id :: rest) (id :: (below ++ starts))
        (startTag element ++ ownText element ++ inner ++ endTag element ++ out)

/-- The nodes to write decide the run. -/
theorem Writes.unique {ids first second : List NodeId} {out out' : String}
    (h₁ : dom.Writes ids first out) (h₂ : dom.Writes ids second out') :
    first = second ∧ out = out' := by
  induction h₁ generalizing second out' with
  | done =>
      cases h₂
      exact ⟨rfl, rfl⟩
  | gone he _ ih =>
      cases h₂ with
      | gone _ hrest => exact ih hrest
      | void he' | element he' => cases he.symm.trans he'
  | void he hv _ ih =>
      cases h₂ with
      | gone he' => cases he.symm.trans he'
      | void he' _ hrest =>
          cases he.symm.trans he'
          obtain ⟨rfl, rfl⟩ := ih hrest
          exact ⟨rfl, rfl⟩
      | element he' hv' =>
          cases he.symm.trans he'
          cases hv.symm.trans hv'
  | element he hv _ _ ihbelow ih =>
      cases h₂ with
      | gone he' => cases he.symm.trans he'
      | void he' hv' =>
          cases he.symm.trans he'
          cases hv'.symm.trans hv
      | element he' _ hbelow hrest =>
          cases he.symm.trans he'
          obtain ⟨rfl, rfl⟩ := ihbelow hbelow
          obtain ⟨rfl, rfl⟩ := ih hrest
          exact ⟨rfl, rfl⟩

/-! ## Shown nodes -/

/-- Whether a node is there with a void element. -/
def isVoid (dom : Dom) (id : NodeId) : Bool :=
  (dom.element? id).any (isVoidTag ·.tag)

/-- Whether a void node in the walk from `start` lies strictly above a node. -/
def hides (dom : Dom) (start id : NodeId) : Bool :=
  (dom.ancestors id).any fun above => above ∈ dom.walk start ∧ dom.isVoid above

/-- The nodes of a walk that are strictly below no void node of it. -/
def shown (dom : Dom) (start : NodeId) : List NodeId :=
  (dom.walk start).filter fun id => !dom.hides start id

theorem hides_iff : dom.hides start id ↔
    ∃ above ∈ dom.ancestors id, above ∈ dom.walk start ∧ dom.isVoid above := by
  simp [hides]

theorem shown_of_not_contains (h : dom.contains start = false) : dom.shown start = [] := by
  rw [shown, walk_of_not_contains h, List.filter_nil]

namespace IsForest

variable {child : NodeId}

/-- Above a node in the walk of a child, the walk of the parent has the parent itself more. -/
theorem mem_walk_parent (hf : dom.IsForest) {above : NodeId} (hl : dom.contains start)
    (hc : child ∈ dom.children start) (hb : dom.Below id child)
    (ha : above ∈ dom.ancestors id) :
    above ∈ dom.walk start ↔ above = start ∨ above ∈ dom.walk child := by
  have hparent : dom.ChildOf child start := hf.mem_children.mp hc
  rw [hf.mem_walk hl, hf.mem_walk (hf.mem_children_live hc)]
  constructor
  · intro hstart
    rcases below_or_below (hf.below_iff.mpr (.inr ha)) hb with hlow | hhigh
    · exact .inr hlow
    · rcases Relation.ReflTransGen.cases_head hhigh with rfl | ⟨parent, hp, hhigh⟩
      · exact .inr .refl
      · obtain rfl : start = parent := Option.some.inj (hparent.symm.trans hp)
        rcases Relation.ReflTransGen.cases_head hstart with heq | ⟨high, hh, hstart⟩
        · exact .inl heq
        · exact absurd (Relation.TransGen.head' hh (hstart.trans hhigh)) (hf.acyclic above)
  · rintro (rfl | hlow)
    · exact .refl
    · exact hlow.tail hparent

theorem hides_self (hf : dom.IsForest) (hl : dom.contains start) :
    dom.hides start start = false := by
  rw [Bool.eq_false_iff, Ne, hides_iff]
  rintro ⟨above, ha, hw, -⟩
  exact hf.acyclic start ((hf.mem_ancestors.mp ha).trans_left ((hf.mem_walk hl).mp hw))

/-- What is below a child is hidden by the parent or in the walk of the child. -/
theorem hides_of_mem_children (hf : dom.IsForest) (hl : dom.contains start)
    (hc : child ∈ dom.children start) (hid : id ∈ dom.walk child) :
    dom.hides start id = (dom.isVoid start || dom.hides child id) := by
  have hb : dom.Below id child := (hf.mem_walk_iff.mp hid).2
  have hstart : start ∈ dom.ancestors id :=
    hf.mem_ancestors.mpr (Relation.TransGen.tail' hb (hf.mem_children.mp hc))
  rw [Bool.eq_iff_iff, Bool.or_eq_true, hides_iff, hides_iff]
  constructor
  · rintro ⟨above, ha, hw, hv⟩
    rcases (hf.mem_walk_parent hl hc hb ha).mp hw with rfl | hw
    · exact .inl hv
    · exact .inr ⟨above, ha, hw, hv⟩
  · rintro (hv | ⟨above, ha, hw, hv⟩)
    · exact ⟨start, hstart, hf.mem_walk_self hl, hv⟩
    · exact ⟨above, ha, (hf.mem_walk_parent hl hc hb ha).mpr (.inr hw), hv⟩

/-- A void node shows itself alone, and any other one what its children show. -/
theorem shown_eq (hf : dom.IsForest) (hl : dom.contains start) :
    dom.shown start =
      start :: if dom.isVoid start then [] else (dom.children start).flatMap dom.shown := by
  have hbelow : (dom.children start).flatMap (fun child =>
      (dom.walk child).filter fun id => !dom.hides start id) =
        if dom.isVoid start then [] else (dom.children start).flatMap dom.shown := by
    split
    · rename_i hvoid
      refine List.flatMap_eq_nil_iff.mpr fun child hc => List.filter_eq_nil_iff.mpr fun id hid => ?_
      simp [hf.hides_of_mem_children hl hc hid, hvoid]
    · rename_i hvoid
      refine List.flatMap_congr fun child hc => List.filter_congr fun id hid => ?_
      simp [hf.hides_of_mem_children hl hc hid, hvoid]
  rw [← hbelow, ← List.filter_flatMap, shown]
  nth_rewrite 1 [hf.walk_eq hl]
  exact List.filter_cons_of_pos (by simp [hf.hides_self hl])

/-! ## The whole run -/

theorem html_eq_outer (hf : dom.IsForest) {element : Element} (h : dom.element? id = some element) :
    dom.html id = outer element ((dom.children id).map dom.html) := by
  unfold html
  rw [hf.fold_eq, h]

/-- A node is written with what it shows before the nodes that come after it. -/
theorem writes_cons (hf : dom.IsForest) (hl : dom.contains id) {rest starts : List NodeId}
    {out : String} (h : dom.Writes rest starts out) :
    dom.Writes (id :: rest) (dom.shown id ++ starts) (dom.html id ++ out) := by
  induction id using hf.induction generalizing rest starts out with
  | step id ih =>
      have hchildren : ∀ children ⊆ dom.children id,
          dom.Writes children (children.flatMap dom.shown) (String.join (children.map dom.html)) := by
        intro children hsub
        induction children with
        | nil => exact .done
        | cons child rest ihrest =>
            obtain ⟨hchild, hrest⟩ := List.cons_subset.mp hsub
            rw [List.flatMap_cons, List.map_cons, String.join_cons]
            exact ih child hchild (hf.mem_children_live hchild) (ihrest hrest)
      obtain ⟨element, he⟩ := Option.isSome_iff_exists.mp hl
      have hvoid : dom.isVoid id = isVoidTag element.tag := by rw [isVoid, he, Option.any_some]
      rw [hf.shown_eq hl, hf.html_eq_outer he, outer, hvoid]
      cases hv : isVoidTag element.tag with
      | true => exact .void he hv h
      | false => exact .element he hv (hchildren _ (List.Subset.refl _)) h

theorem writes_iff (hf : dom.IsForest) (start : NodeId) (starts : List NodeId) (out : String) :
    dom.Writes [start] starts out ↔ starts = dom.shown start ∧ out = dom.html start := by
  have hw : dom.Writes [start] (dom.shown start) (dom.html start) := by
    cases he : dom.element? start with
    | none =>
        have hl : dom.contains start = false := by rw [contains, he]; rfl
        have hempty : dom.html start = "" := by
          unfold html
          rw [hf.fold_eq, he]
        rw [shown_of_not_contains hl, hempty]
        exact .gone he .done
    | some element =>
        have hl : dom.contains start := by rw [contains, he]; rfl
        simpa using hf.writes_cons hl .done
  constructor
  · exact fun h => h.unique hw
  · rintro ⟨rfl, rfl⟩
    exact hw

end IsForest

end TemplateTree.Dom
