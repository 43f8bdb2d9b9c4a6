import TemplateTree.Proofs.Dom.Changes
import TemplateTree.Proofs.Dom.ElementTree

/-! # Agreement of forests

Where two forests are the same, and what can be seen of them there. -/

namespace TemplateTree.Dom

/-- The forests have the same elements and links where `keep` holds. -/
structure Agree (keep : NodeId → Prop) (before after : Dom) : Prop where
  element? : ∀ {id}, keep id → after.element? id = before.element? id
  parent? : ∀ {id}, keep id → after.parent? id = before.parent? id
  children : ∀ {id}, keep id → after.children id = before.children id

namespace Agree

variable {keep keep' : NodeId → Prop} {first second third dom : Dom}

theorem refl (dom : Dom) : Agree keep dom dom :=
  ⟨fun _ => rfl, fun _ => rfl, fun _ => rfl⟩

theorem mono (h : Agree keep first second) (hk : ∀ {id}, keep' id → keep id) :
    Agree keep' first second :=
  ⟨fun hid => h.element? (hk hid), fun hid => h.parent? (hk hid),
    fun hid => h.children (hk hid)⟩

theorem trans (h₁ : Agree keep first second) (h₂ : Agree keep second third) :
    Agree keep first third :=
  ⟨fun hid => (h₂.element? hid).trans (h₁.element? hid),
    fun hid => (h₂.parent? hid).trans (h₁.parent? hid),
    fun hid => (h₂.children hid).trans (h₁.children hid)⟩

theorem contains (h : Agree keep first second) {id : NodeId} (hid : keep id) :
    second.contains id = first.contains id := by
  rw [Dom.contains, Dom.contains, h.element? hid]

/-- A tree that lies where forests agree is the same in both. -/
theorem tree?_eq (h : Agree keep first second) (hf : first.IsForest) (hs : second.IsForest)
    (closed : ∀ id, keep id → ∀ child ∈ first.children id, keep child) {id : NodeId}
    (hid : keep id) : second.tree? id = first.tree? id := by
  refine hf.fold_congr hs closed (fun _ hk => h.children hk) ?_ hid
  intro other hk
  funext trees
  rw [h.element? hk]

/-! ## Changes that agree with what was there -/

theorem modifyElement (dom : Dom) (node : NodeId) (change : Element → Element) :
    Agree (· ≠ node) dom (dom.modifyElement node change) where
  element? hid := by rw [element?_modifyElement, if_neg hid]
  parent? _ := rfl
  children _ := rfl

theorem insert (hf : dom.IsForest) (element : Element) :
    Agree (·.index < dom.issued) dom (dom.insert element).2 where
  element? {id} hid := by
    have hne : id ≠ ⟨dom.issued⟩ := by
      rintro rfl
      exact Nat.lt_irrefl _ hid
    rw [element?_insert, if_neg hne]
  parent? _ := rfl
  children _ := hf.children_insert element _

theorem attach (hf : dom.IsForest) {parent : NodeId} (hp : dom.contains parent)
    (child : NodeId) :
    Agree (fun id => id ≠ parent ∧ id ≠ child) dom (dom.attach parent child) where
  element? _ := rfl
  parent? hid := by rw [parent?_attach, if_neg hid.2]
  children hid := by rw [hf.children_attach hp, if_neg hid.1]

end Agree

/-- A forest that has grown out of another one and is the same where `keep` holds. -/
structure Extends (keep : NodeId → Prop) (before after : Dom) : Prop where
  isForest : after.IsForest
  issued_le : before.issued ≤ after.issued
  agree : Agree keep before after

namespace Extends

variable {keep keep' : NodeId → Prop} {first second third dom : Dom}

theorem refl (hf : dom.IsForest) : Extends keep dom dom :=
  ⟨hf, Nat.le_refl _, .refl dom⟩

theorem mono (h : Extends keep first second) (hk : ∀ {id}, keep' id → keep id) :
    Extends keep' first second :=
  ⟨h.isForest, h.issued_le, h.agree.mono hk⟩

theorem trans (h₁ : Extends keep first second) (h₂ : Extends keep second third) :
    Extends keep first third :=
  ⟨h₂.isForest, Nat.le_trans h₁.issued_le h₂.issued_le, h₁.agree.trans h₂.agree⟩

end Extends

/-- A node without a parent need not be taken off one. -/
theorem detach_of_parent?_eq_none {dom : Dom} {id : NodeId} (h : dom.parent? id = none) :
    dom.detach id = dom := by
  simp [detach, h]

namespace IsForest

variable {dom : Dom}

/-- A node without a parent is no child of any node. -/
theorem ne_of_mem_children (hf : dom.IsForest) {root id child : NodeId}
    (hr : dom.parent? root = none) (h : child ∈ dom.children id) : child ≠ root := by
  rintro rfl
  simp [hf.mem_children, hr] at h

/-- A new child changes no tree that its parent is not in. -/
theorem tree?_attach (hf : dom.IsForest) {parent child : NodeId} (hp : dom.contains parent)
    (hr : dom.parent? parent = none) (ha : (dom.attach parent child).IsForest) {id : NodeId}
    (hid : id ≠ parent) : (dom.attach parent child).tree? id = dom.tree? id := by
  have closed : ∀ other, other ≠ parent → ∀ below ∈ dom.children other, below ≠ parent :=
    fun _ _ _ hb => hf.ne_of_mem_children hr hb
  have hchildren : ∀ other, other ≠ parent →
      (dom.attach parent child).children other = dom.children other := by
    intro other ho
    rw [hf.children_attach hp, if_neg ho]
  exact hf.fold_congr ha closed hchildren (fun _ _ => rfl) hid

end IsForest

end TemplateTree.Dom
