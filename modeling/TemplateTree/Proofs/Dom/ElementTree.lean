import Mathlib.Data.List.ReduceOption
import TemplateTree.Dom.Html
import TemplateTree.Proofs.Dom.Traversal

/-! # Trees of elements

What a node of a forest shows, free of ids: its element and the trees of its children. -/

namespace TemplateTree

inductive ElementTree where
  | node (element : Element) (children : List ElementTree)

namespace ElementTree

@[elab_as_elim]
theorem induction {motive : ElementTree → Prop}
    (node : ∀ element children, (∀ child ∈ children, motive child) →
      motive (.node element children)) : ∀ tree, motive tree
  | .node element children => node element children fun child _ => induction node child

mutual

def html : ElementTree → String
  | .node element children => Html.outer element (htmls children)

def htmls : List ElementTree → List String
  | [] => []
  | tree :: rest => tree.html :: htmls rest

end

@[simp] theorem htmls_eq_map (trees : List ElementTree) : htmls trees = trees.map html := by
  induction trees with
  | nil => rfl
  | cons tree rest ih => rw [htmls, ih, List.map_cons]

theorem html_node (element : Element) (children : List ElementTree) :
    (node element children).html = Html.outer element (children.map html) := by
  rw [html, htmls_eq_map]

mutual

/-- The texts of a tree in document order. -/
def texts : ElementTree → List String
  | .node element children => element.text.toList ++ textsOf children

def textsOf : List ElementTree → List String
  | [] => []
  | tree :: rest => tree.texts ++ textsOf rest

end

end ElementTree

namespace Dom

variable {dom : Dom}

/-- The tree of a live node. -/
def tree? (dom : Dom) : NodeId → Option ElementTree :=
  dom.fold fun id trees => (dom.element? id).map (.node · trees.reduceOption)

/-- The tree of a node has its element above the trees of its children. -/
theorem IsForest.tree?_eq (hf : dom.IsForest) (id : NodeId) :
    dom.tree? id =
      (dom.element? id).map (.node · ((dom.children id).filterMap dom.tree?)) := by
  rw [tree?, hf.fold_eq, List.reduceOption, List.filterMap_map]
  rfl

@[simp] theorem isSome_tree? (dom : Dom) (id : NodeId) :
    (dom.tree? id).isSome = dom.contains id := by
  unfold tree? fold
  cases dom.issued <;> simp [foldUpTo, contains]

/-- Only the joined text of the children counts. -/
theorem outer_congr (element : Element) {inner inner' : List String}
    (h : String.join inner = String.join inner') :
    Html.outer element inner = Html.outer element inner' := by
  rw [Html.outer, Html.outer, h]

theorem join_map_getD {α β : Type} (list : List α) (f : α → Option β) (text : β → String) :
    String.join (list.map fun a => ((f a).map text).getD "") =
      String.join ((list.filterMap f).map text) := by
  induction list with
  | nil => rfl
  | cons a rest ih =>
      rw [List.map_cons, String.join_cons, ih]
      cases h : f a with
      | none => rw [List.filterMap_cons_none h, Option.map_none, Option.getD_none, String.empty_append]
      | some b =>
          rw [List.filterMap_cons_some h, List.map_cons, String.join_cons, Option.map_some,
            Option.getD_some]

/-- The HTML of a node is the HTML of its tree; an id without a node has neither. -/
theorem html_eq (dom : Dom) (id : NodeId) :
    dom.html id = ((dom.tree? id).map ElementTree.html).getD "" := by
  unfold html tree? fold
  induction dom.issued generalizing id with
  | zero => cases h : dom.element? id <;> simp [foldUpTo, h, ElementTree.html_node]
  | succ depth ih =>
      rw [foldUpTo, foldUpTo]
      cases h : dom.element? id with
      | none => rfl
      | some element =>
          simp only [Option.map_some, Option.getD_some, ElementTree.html_node]
          apply outer_congr
          rw [List.reduceOption, List.filterMap_map, Function.id_comp, ← join_map_getD]
          congr 2
          funext child
          exact ih child

theorem html_of_tree? {id : NodeId} {tree : ElementTree} (h : dom.tree? id = some tree) :
    dom.html id = tree.html := by
  rw [html_eq, h]
  rfl

/-- The texts below a node are those of its tree. -/
theorem IsForest.filterMap_preorder (hf : dom.IsForest) {id : NodeId} {tree : ElementTree}
    (h : dom.tree? id = some tree) :
    (dom.preorder id).filterMap (fun node => (dom.element? node).bind (·.text)) =
      tree.texts := by
  induction id using hf.induction generalizing tree with
  | step id ih =>
      rw [hf.tree?_eq] at h
      obtain ⟨element, he, rfl⟩ := Option.map_eq_some_iff.mp h
      have hchildren : ∀ children ⊆ dom.children id,
          (children.flatMap dom.preorder).filterMap
              (fun node => (dom.element? node).bind (·.text)) =
            ElementTree.textsOf (children.filterMap dom.tree?) := by
        intro children hsub
        induction children with
        | nil => rfl
        | cons child rest ihrest =>
            obtain ⟨hchild, hrest⟩ := List.cons_subset.mp hsub
            have hlive : (dom.tree? child).isSome := by
              rw [isSome_tree?]
              exact hf.mem_children_live hchild
            obtain ⟨below, hb⟩ := Option.isSome_iff_exists.mp hlive
            rw [List.flatMap_cons, List.filterMap_append, ih child hchild hb, ihrest hrest,
              List.filterMap_cons_some hb, ElementTree.textsOf]
      rw [hf.preorder_eq, List.filterMap_cons, hchildren _ (List.Subset.refl _), he,
        ElementTree.texts, Option.bind_some]
      cases element.text <;> rfl

theorem IsForest.textContent_of_tree? (hf : dom.IsForest) {id : NodeId} {tree : ElementTree}
    (h : dom.tree? id = some tree) : dom.textContent id = String.join tree.texts := by
  have hlive : dom.contains id := by
    rw [← isSome_tree?, h]
    rfl
  rw [textContent, hf.walk_eq_preorder hlive, hf.filterMap_preorder h]

end Dom

end TemplateTree
