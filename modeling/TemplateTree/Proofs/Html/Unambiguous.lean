import TemplateTree.Proofs.Dom.Reachable
import TemplateTree.Proofs.Html.Escape
import TemplateTree.Proofs.Html.Markup

/-! # Reading HTML back

The HTML of a tree determines all that it shows of the tree. Every part of it is read off
from the left and leaves the rest untouched. -/

namespace TemplateTree

namespace Html

/-! ## Start tags -/

section

variable {a b : Element} {x y : List Char}

/-- The shown attributes are those that can be read. -/
theorem shownAttributes_eq (element : Element) :
    shownAttributes element =
      ((element.attribute? "class").map ("class", ·)).toList ++
        ((element.attribute? "id").map ("id", ·)).toList ++ element.attributes := by
  cases hc : element.classes.isEmpty <;> simp [shownAttributes, Element.attribute?, hc]

theorem startTag_eq_of_head (h : a.head = b.head) : startTag a = startTag b := by
  have ht : a.tag = b.tag := congrArg Head.tag h
  have hc : a.attribute? "class" = b.attribute? "class" := congrArg Head.className? h
  have hi : a.attribute? "id" = b.attribute? "id" := congrArg Head.id h
  have hr : a.attributes = b.attributes := congrArg Head.attributes h
  rw [startTag, startTag, shownAttributes_eq, shownAttributes_eq, ht, hc, hi, hr]

theorem lookup_given (name key : String) (value : Option String)
    (rest : List (String × String)) :
    ((value.map (key, ·)).toList ++ rest).lookup name =
      if name = key then value.or (rest.lookup name) else rest.lookup name := by
  cases value with
  | none => simp
  | some value =>
      by_cases h : name = key
      · simp [h]
      · simp [List.lookup_cons, beq_false_of_ne h, h]

theorem lookup_shownAttributes (h : a.Separate) (name : String) :
    (shownAttributes a).lookup name = a.attribute? name := by
  have hn : name = "id" ∨ name = "class" → a.attributes.lookup name = none := by
    intro hname
    refine List.lookup_eq_none_iff.mpr fun entry he => ?_
    obtain ⟨hi, hc⟩ := h entry he
    rcases hname with rfl | rfl
    · simpa using hi.symm
    · simpa using hc.symm
  rw [shownAttributes_eq, List.append_assoc, lookup_given, lookup_given]
  by_cases hi : name = "id"
  · rw [hn (.inl hi), hi, if_neg (by decide), if_pos rfl, Option.or_none]
  by_cases hc : name = "class"
  · rw [hn (.inr hc), hc, if_pos rfl, if_neg (by decide), Option.or_none]
  · rw [if_neg hc, if_neg hi, Element.attribute?, if_neg hi, if_neg hc]

theorem filter_shownAttributes (h : a.Separate) :
    (shownAttributes a).filter (fun entry => entry.1 ≠ "id" ∧ entry.1 ≠ "class") =
      a.attributes := by
  have hk : a.attributes.filter (fun entry => entry.1 ≠ "id" ∧ entry.1 ≠ "class") =
      a.attributes :=
    List.filter_eq_self.mpr fun entry he => decide_eq_true (h entry he)
  rw [shownAttributes_eq, List.filter_append, List.filter_append, hk]
  cases a.attribute? "class" <;> cases a.attribute? "id" <;> simp

/-- The shown attributes tell the id and the classes from the others. -/
theorem head_eq_of_shownAttributes (ha : a.Separate) (hb : b.Separate) (ht : a.tag = b.tag)
    (h : shownAttributes a = shownAttributes b) : a.head = b.head := by
  unfold Element.head
  rw [← lookup_shownAttributes ha, ← lookup_shownAttributes ha, ← filter_shownAttributes ha, h,
    lookup_shownAttributes hb, lookup_shownAttributes hb, filter_shownAttributes hb, ht]

theorem notMem_shownAttributes (h : a.Legible) :
    ∀ entry ∈ shownAttributes a, '=' ∉ entry.1.toList := by
  intro entry he
  simp only [shownAttributes_eq, List.mem_append, Option.mem_toList,
    Option.map_eq_some_iff] at he
  rcases he with (⟨className, -, rfl⟩ | ⟨id, -, rfl⟩) | he
  · show '=' ∉ "class".toList
    decide
  · show '=' ∉ "id".toList
    decide
  · exact h.names entry he

/-- A proper tag starts with a letter and ends before a blank or a bracket. -/
theorem toList_of_isValidTagName {tag : String} (h : isValidTagName tag) :
    ∃ c cs, tag.toList = c :: cs ∧ c ≠ '/' ∧ ∀ d ∈ c :: cs, ¬ (d = ' ' ∨ d = '>') := by
  unfold isValidTagName at h
  split at h
  · cases h
  · next c cs ht =>
      rw [Bool.and_eq_true, List.all_eq_true] at h
      refine ⟨c, cs, ht, ?_, List.forall_mem_cons.mpr ⟨?_, ?_⟩⟩
      · rintro rfl
        exact absurd h.1 (by decide)
      · rintro (rfl | rfl) <;> exact absurd h.1 (by decide)
      · intro d hd
        rintro (rfl | rfl) <;> exact absurd (h.2 _ hd) (by decide)

theorem toList_startTag (element : Element) :
    (startTag element).toList = '<' :: (element.tag.toList ++
      ((shownAttributes element).flatMap (fun entry => (attributeText entry.1 entry.2).toList) ++
        ['>'])) := by
  simp [startTag, String.toList_join, List.flatMap_map]

/-- A blank or a bracket follows a tag. -/
theorem attributes_stop (element : Element) (x : List Char) :
    ∃ c ∈ ((shownAttributes element).flatMap
      (fun entry => (attributeText entry.1 entry.2).toList) ++ '>' :: x).head?,
        c = ' ' ∨ c = '>' := by
  cases shownAttributes element with
  | nil => exact ⟨_, rfl, .inr rfl⟩
  | cons entry rest => exact ⟨' ', by simp [toList_attributeText], .inl rfl⟩

/-- A start tag determines all that it shows, and its end. -/
theorem startTag_append_inj (ha : a.Legible) (hb : b.Legible)
    (h : (startTag a).toList ++ x = (startTag b).toList ++ y) : a.head = b.head ∧ x = y := by
  simp only [toList_startTag, List.cons_append, List.append_assoc, List.nil_append,
    List.cons.injEq, true_and] at h
  obtain ⟨_, _, hta, -, hsa⟩ := toList_of_isValidTagName ha.tag
  obtain ⟨_, _, htb, -, hsb⟩ := toList_of_isValidTagName hb.tag
  obtain ⟨htag, hrest⟩ := append_inj_of_stop (fun c => c = ' ' ∨ c = '>') (hta ▸ hsa)
    (htb ▸ hsb) (attributes_stop a x) (attributes_stop b y) h
  obtain ⟨hshown, hxy⟩ := flatMap_append_inj id (·.head? = some ' ')
    (fun _ hx _ hy _ _ =>
      attributeText_append_inj (notMem_shownAttributes ha _ hx) (notMem_shownAttributes hb _ hy))
    (fun _ _ _ => by simp [toList_attributeText]) (fun _ _ _ => by simp [toList_attributeText])
    (by simp) (by simp) hrest
  rw [List.map_id, List.map_id] at hshown
  refine ⟨?_, (List.cons.inj hxy).2⟩
  exact head_eq_of_shownAttributes ha.separate hb.separate (String.toList_inj.mp htag) hshown

end

end Html

namespace ElementTree

open Html

/-! ## Trees -/

section

variable {element : Element} {children : List ElementTree}

/-- What follows the start tag of an element. -/
def inside (element : Element) (children : List ElementTree) : List Char :=
  if isVoidTag element.tag then []
  else (ownText element).toList ++
    (children.flatMap (·.html.toList) ++ (endTag element).toList)

theorem toList_html_node (element : Element) (children : List ElementTree) :
    (node element children).html.toList =
      (startTag element).toList ++ inside element children := by
  rw [html_node, outer, inside]
  cases isVoidTag element.tag <;> simp [String.toList_join, List.flatMap_map]

theorem toList_endTag (element : Element) :
    (endTag element).toList = '<' :: '/' :: (element.tag.toList ++ ['>']) := by
  simp [endTag]

/-- A tree opens with a bracket that no slash follows. -/
theorem Legible.opens {tree : ElementTree} (h : tree.Legible) :
    ∃ c x, tree.html.toList = '<' :: c :: x ∧ c ≠ '/' := by
  obtain ⟨hl, -⟩ := h
  next element children =>
    obtain ⟨c, cs, ht, hc, -⟩ := toList_of_isValidTagName hl.tag
    exact ⟨c, _, by rw [toList_html_node, toList_startTag, ht]; rfl, hc⟩

theorem Legible.goesOn {tree : ElementTree} (h : tree.Legible) (x : List Char) :
    (tree.html.toList ++ x)[1]? ≠ some '/' := by
  obtain ⟨c, rest, he, hc⟩ := h.opens
  rw [he]
  simpa using hc

/-- The text of an element ends where its first child or its end tag opens. -/
theorem children_stop (hc : ∀ child ∈ children, child.Legible) (x : List Char) :
    (children.flatMap (·.html.toList) ++ ((endTag element).toList ++ x)).head? =
      some (stopChar false) := by
  cases children with
  | nil => simp [toList_endTag, stopChar]
  | cons child rest =>
      obtain ⟨c, y, he, -⟩ := (hc child List.mem_cons_self).opens
      simp [he, stopChar]

end

/-- The HTML of a legible tree determines what it shows, and its end. -/
theorem html_append_inj {s t : ElementTree} (hs : s.Legible) (ht : t.Legible) {x y : List Char}
    (h : s.html.toList ++ x = t.html.toList ++ y) : s.markup = t.markup ∧ x = y := by
  induction s using ElementTree.induction generalizing t x y with
  | node a as ih =>
      obtain ⟨b, bs⟩ := t
      obtain ⟨ha, has⟩ := hs
      obtain ⟨hb, hbs⟩ := ht
      rw [toList_html_node, toList_html_node, List.append_assoc, List.append_assoc] at h
      obtain ⟨hhead, hinside⟩ := startTag_append_inj ha hb h
      have htag : a.tag = b.tag := congrArg Head.tag hhead
      rw [inside, inside, ← htag] at hinside
      cases hv : isVoidTag a.tag with
      | true =>
          rw [markup_of_void hv, markup_of_void (htag ▸ hv), hhead]
          rw [hv] at hinside
          exact ⟨rfl, hinside⟩
      | false =>
          have hvb : isVoidTag b.tag = false := htag ▸ hv
          simp only [hv, Bool.false_eq_true, if_false, List.append_assoc] at hinside
          obtain ⟨htext, hrest⟩ := escape_append_inj (children_stop (has hv) x)
            (children_stop (hbs hvb) y) hinside
          obtain ⟨hchildren, hend⟩ := flatMap_append_inj markup (·[1]? ≠ some '/')
            (fun child hc other ho _ _ => ih child hc (has hv child hc) (hbs hvb other ho))
            (fun child hc => (has hv child hc).goesOn) (fun other ho => (hbs hvb other ho).goesOn)
            (by simp [toList_endTag]) (by simp [toList_endTag]) hrest
          rw [endTag, endTag, htag, List.append_cancel_left_eq] at hend
          rw [markup_of_not_void hv, markup_of_not_void hvb, hhead, htext, hchildren]
          exact ⟨rfl, hend⟩

theorem flatMap_html_eq {as bs : List ElementTree} (h : as.map markup = bs.map markup)
    (hab : ∀ a ∈ as, ∀ {b : ElementTree}, a.markup = b.markup → a.html = b.html) :
    as.flatMap (·.html.toList) = bs.flatMap (·.html.toList) := by
  induction as generalizing bs with
  | nil => rw [List.map_eq_nil_iff.mp h.symm]
  | cons a as ih =>
      obtain ⟨b, rest, rfl, hb, hrest⟩ := List.map_eq_cons_iff.mp h.symm
      rw [List.flatMap_cons, List.flatMap_cons, hab a List.mem_cons_self hb.symm,
        ih hrest.symm fun a ha => hab a (.tail _ ha)]

/-- What is not shown does not count. -/
theorem html_eq_of_markup {s t : ElementTree} (h : s.markup = t.markup) : s.html = t.html := by
  induction s using ElementTree.induction generalizing t with
  | node a as ih =>
      obtain ⟨b, bs⟩ := t
      apply String.toList_inj.mp
      simp only [toList_html_node, inside]
      cases hva : isVoidTag a.tag <;> cases hvb : isVoidTag b.tag
      · rw [markup_of_not_void hva, markup_of_not_void hvb, Markup.node.injEq] at h
        obtain ⟨hhead, htext, hchildren⟩ := h
        have htag : a.tag = b.tag := congrArg Head.tag hhead
        rw [startTag_eq_of_head hhead, ownText, ownText, htext, flatMap_html_eq hchildren ih,
          endTag, endTag, htag]
      · rw [markup_of_not_void hva, markup_of_void hvb] at h
        cases h
      · rw [markup_of_void hva, markup_of_not_void hvb] at h
        cases h
      · rw [markup_of_void hva, markup_of_void hvb, Markup.void.injEq] at h
        rw [startTag_eq_of_head h, if_pos rfl, if_pos rfl]

end ElementTree

/-- Two nodes of any two forests, when their trees are legible, have the same HTML exactly
when HTML shows the same of both: start tags with all attributes, texts and children, but for
what void elements hide. No id, class, value or text can pass for markup. -/
theorem Dom.html_unambiguous {first second : Dom} {a b : NodeId} {s t : ElementTree}
    (ha : first.tree? a = some s) (hb : second.tree? b = some t) (hs : s.Legible)
    (ht : t.Legible) : first.html a = second.html b ↔ s.markup = t.markup := by
  rw [html_of_tree? ha, html_of_tree? hb]
  constructor
  · intro h
    have hl : s.html.toList ++ [] = t.html.toList ++ [] := by rw [h]
    exact (ElementTree.html_append_inj hs ht hl).1
  · exact ElementTree.html_eq_of_markup

def paragraph (classes : List String) (text : Option String) : Element where
  tag := "p"
  classes := classes
  attributes := [("title", "\"<&>")]
  text := text

/-- A paragraph with a line break, and what the line break hides. -/
def brokenLine (classes : List String) (text hidden : Option String)
    (below : List ElementTree) : ElementTree :=
  .node (paragraph classes text) [.node { tag := "br", text := hidden } below]

theorem legible_brokenLine (classes : List String) (text hidden : Option String)
    (below : List ElementTree) : (brokenLine classes text hidden below).Legible := by
  have hp : isValidTagName "p" := by decide
  have hb : isValidTagName "br" := by decide
  refine .node ⟨hp, ⟨{ tag := "p" }, [("title", "\"<&>")], rfl, rfl⟩, ?_⟩ ?_
  · show ∀ entry ∈ [("title", "\"<&>")], '=' ∉ entry.1.toList
    decide
  · rintro - child hc
    obtain rfl := List.mem_singleton.mp hc
    exact .node ⟨hb, ⟨{ tag := "br" }, [], rfl, rfl⟩, fun _ he => nomatch he⟩
      fun h => absurd h (show isVoidTag "br" ≠ false by decide)

theorem html_brokenLine :
    let first := Dom.empty.applyAll [.insert (paragraph ["a", "b"] (some "")),
      .insert { tag := "br" }, .insert { tag := "i" }, .append ⟨0⟩ ⟨1⟩, .append ⟨1⟩ ⟨2⟩]
    let second := Dom.empty.applyAll [.insert { tag := "br", text := some "unseen" },
      .insert (paragraph ["a b"] none), .append ⟨1⟩ ⟨0⟩]
    let s := brokenLine ["a", "b"] (some "") none [.node { tag := "i" } []]
    let t := brokenLine ["a b"] none (some "unseen") []
    first.tree? ⟨0⟩ = some s ∧ second.tree? ⟨1⟩ = some t ∧ s.Legible ∧ t.Legible ∧
      first.html ⟨0⟩ = "<p class=\"a b\" title=\"&quot;&lt;&amp;&gt;\"><br></p>" ∧
      first.html ⟨0⟩ = second.html ⟨1⟩ ∧ s.markup = t.markup := by
  intro first second s t
  have ha : first.tree? ⟨0⟩ = some s := by rfl
  have hb : second.tree? ⟨1⟩ = some t := by rfl
  have hs : s.Legible := legible_brokenLine _ _ _ _
  have ht : t.Legible := legible_brokenLine _ _ _ _
  have h : first.html ⟨0⟩ = second.html ⟨1⟩ := by decide +kernel
  exact ⟨ha, hb, hs, ht, by decide +kernel, h, (Dom.html_unambiguous ha hb hs ht).mp h⟩

end TemplateTree
