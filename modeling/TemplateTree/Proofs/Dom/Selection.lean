import TemplateTree.Dom.Query
import TemplateTree.Proofs.Dom.Walk
import TemplateTree.Proofs.Selector.Canonical

/-! # Selections

A selector is read piece by piece, so that a text put behind another one adds its classes and
its id to what was asked for before. A selection keeps the order of the walk, and every class
that is added narrows it. -/

namespace TemplateTree

namespace Selector

/-! ## Texts behind each other -/

/-- A text that goes on with a new segment, or not at all. -/
def StartsSegment (text : String) : Prop :=
  ∀ c ∈ text.toList.head?, c = '.' ∨ c = '#'

instance (text : String) : Decidable (StartsSegment text) :=
  match h : text.toList.head? with
  | none => .isTrue (by simp [StartsSegment, h])
  | some c => decidable_of_iff (c = '.' ∨ c = '#') (by simp [StartsSegment, h])

/-- A selector that asks for more. A later id takes the place of an earlier one. -/
def extend (selector more : Selector) : Selector :=
  { selector with
    id := more.id.or selector.id
    classes := selector.classes ++ more.classes }

namespace Layout

variable {layout behind : Layout} {text tail : String}

theorem IsOf.tag_eq_nil (h : layout.IsOf text) (hs : StartsSegment text) : layout.tag = [] := by
  cases htag : layout.tag with
  | nil => rfl
  | cons c cs =>
      obtain ⟨hdot, hhash⟩ := h.tag_plain c (htag ▸ List.mem_cons_self)
      have hhead : c ∈ text.toList.head? := by
        rw [← h.written, htag]
        rfl
      rcases hs c hhead with rfl | rfl
      · exact absurd rfl hdot
      · exact absurd rfl hhash

theorem IsOf.append (h : layout.IsOf text) (ht : behind.IsOf tail) (hs : StartsSegment tail) :
    (⟨layout.tag, layout.pieces ++ behind.pieces⟩ : Layout).IsOf (text ++ tail) where
  written := by
    have hwritten := ht.written
    rw [ht.tag_eq_nil hs, List.nil_append] at hwritten
    rw [String.toList_append, ← h.written, ← hwritten, Piece.written, Piece.written, Piece.written,
      List.flatMap_append, List.append_assoc]
  tag_plain := h.tag_plain
  pieces_plain piece hp :=
    (List.mem_append.mp hp).elim (h.pieces_plain piece) (ht.pieces_plain piece)

/-- A marker and a text without markers make one piece. -/
theorem isOf_segment (kind : SegmentKind) {body : String}
    (h : ∀ c ∈ body.toList, c ≠ '.' ∧ c ≠ '#') :
    (⟨[], [⟨kind, body.toList⟩]⟩ : Layout).IsOf (String.singleton kind.marker ++ body) where
  written := by simp [Piece.written]
  tag_plain := by simp
  pieces_plain := by simpa [Piece.IsPlain] using h

end Layout

theorem parseWith_append (fallback text : String) {tail : String} (h : StartsSegment tail) :
    parseWith fallback (text ++ tail) =
      (parseWith fallback text).extend (parseWith fallback tail) := by
  obtain ⟨layout, hl⟩ := Layout.exists_isOf text
  obtain ⟨behind, hb⟩ := Layout.exists_isOf tail
  rw [(hl.append hb h).parseWith_eq, hl.parseWith_eq, hb.parseWith_eq]
  simp [Layout.selector, extend, Piece.names_append, List.getLast?_append]

theorem startsSegment_segment (kind : SegmentKind) (body : String) :
    StartsSegment (String.singleton kind.marker ++ body) := by
  cases kind <;> simp [StartsSegment, SegmentKind.marker]

section

variable (fallback text : String) {body : String} (h : ∀ c ∈ body.toList, c ≠ '.' ∧ c ≠ '#')

include h

theorem parseWith_class :
    parseWith fallback (text ++ "." ++ body) =
      { parseWith fallback text with
        classes := (parseWith fallback text).classes ++
          if isName body.toList then [body] else [] } := by
  have hdot : text ++ "." ++ body =
      text ++ (String.singleton SegmentKind.className.marker ++ body) := String.append_assoc
  rw [hdot, parseWith_append fallback text (startsSegment_segment .className body),
    (Layout.isOf_segment .className h).parseWith_eq]
  cases hname : isName body.toList <;> simp [extend, Layout.selector, Piece.names, hname]

theorem parseWith_id :
    parseWith fallback (text ++ "#" ++ body) =
      { parseWith fallback text with
        id := if isName body.toList then some body else (parseWith fallback text).id } := by
  have hhash : text ++ "#" ++ body = text ++ (String.singleton SegmentKind.id.marker ++ body) :=
    String.append_assoc
  rw [hhash, parseWith_append fallback text (startsSegment_segment .id body),
    (Layout.isOf_segment .id h).parseWith_eq]
  cases hname : isName body.toList <;> simp [extend, Layout.selector, Piece.names, hname]

end

/-! ## What selectors accept -/

theorem accepts_iff (selector : Selector) (element : Element) :
    selector.accepts element ↔
      (selector.tag = anyTag ∨ element.tag = selector.tag) ∧
        (∀ id ∈ selector.id, element.id = some id) ∧
        ∀ name ∈ selector.classes, element.hasClass name := by
  rw [accepts, Bool.and_eq_true, Bool.and_eq_true, Bool.or_eq_true, Bool.or_eq_true,
    beq_iff_eq, beq_iff_eq, beq_iff_eq, List.all_eq_true, and_assoc]
  cases selector.id <;> simp

/-- The order of classes does not count, nor does how often they are there. -/
theorem accepts_congr {first second : Selector} (htag : first.tag = second.tag)
    (hid : first.id = second.id) (hclasses : ∀ name, name ∈ first.classes ↔ name ∈ second.classes)
    (element : Element) : first.accepts element = second.accepts element := by
  rw [Bool.eq_iff_iff, accepts_iff, accepts_iff, htag, hid]
  simp only [hclasses]

/-- A class more has to be there as well. -/
theorem accepts_class (selector : Selector) (name : String) (element : Element) :
    { selector with classes := selector.classes ++ [name] }.accepts element =
      (selector.accepts element && element.hasClass name) := by
  simp [accepts, Bool.and_assoc]

end Selector

/-! ## Selections -/

namespace Dom

open Selector

variable {dom : Dom}

theorem select_congr (dom : Dom) (root : NodeId) {text other : String}
    (h : ∀ element,
      (parseWith anyTag text).accepts element = (parseWith anyTag other).accepts element) :
    dom.select root text = dom.select root other := by
  rw [select, select]
  simp only [funext h]

/-- Asking for a class as well filters what was found before. -/
theorem select_class (dom : Dom) (root : NodeId) (text : String) {name : String}
    (h : isName name.toList) :
    dom.select root (text ++ "." ++ name) =
      (dom.select root text).filter fun id => (dom.element? id).any (·.hasClass name) := by
  rw [select, select, parseWith_class anyTag text (isName_plain h), if_pos h, List.filter_filter]
  apply List.filter_congr
  intro id _
  cases dom.element? id with
  | none => rfl
  | some element => exact (accepts_class _ name element).trans (Bool.and_comm _ _)

theorem select_id (dom : Dom) (root : NodeId) (text : String) {name : String}
    (h : isName name.toList) :
    dom.select root (text ++ "#" ++ name) =
      (dom.walk root).filter fun id => (dom.element? id).any fun element =>
        ((parseWith anyTag text).tag = anyTag ∨ element.tag = (parseWith anyTag text).tag) ∧
          element.id = some name ∧
          ∀ other ∈ (parseWith anyTag text).classes, element.hasClass other := by
  rw [select, parseWith_id anyTag text (isName_plain h), if_pos h]
  apply List.filter_congr
  intro id _
  cases dom.element? id with
  | none => rfl
  | some element =>
      rw [Option.any_some, Option.any_some, Bool.eq_iff_iff, accepts_iff, decide_eq_true_iff]
      simp

/-- Whether two class segments are there in one order or the other does not count. -/
theorem select_swap (dom : Dom) (root : NodeId) (text : String) {first second middle tail : String}
    (hfirst : ∀ c ∈ first.toList, c ≠ '.' ∧ c ≠ '#')
    (hsecond : ∀ c ∈ second.toList, c ≠ '.' ∧ c ≠ '#')
    (hmiddle : StartsSegment middle) (htail : StartsSegment tail) :
    dom.select root (text ++ "." ++ first ++ middle ++ "." ++ second ++ tail) =
      dom.select root (text ++ "." ++ second ++ middle ++ "." ++ first ++ tail) := by
  apply select_congr
  apply accepts_congr <;>
    simp only [parseWith_append _ _ htail, parseWith_append _ _ hmiddle, parseWith_class _ _ hfirst,
      parseWith_class _ _ hsecond, extend, List.mem_append]
  tauto

theorem select_repeat (dom : Dom) (root : NodeId) (text : String) {name middle tail : String}
    (hname : ∀ c ∈ name.toList, c ≠ '.' ∧ c ≠ '#')
    (hmiddle : StartsSegment middle) (htail : StartsSegment tail) :
    dom.select root (text ++ "." ++ name ++ middle ++ "." ++ name ++ tail) =
      dom.select root (text ++ "." ++ name ++ middle ++ tail) := by
  apply select_congr
  apply accepts_congr <;>
    simp only [parseWith_append _ _ htail, parseWith_append _ _ hmiddle, parseWith_class _ _ hname,
      extend, List.mem_append]
  tauto

/-- Behind any text a class that is a name filters what was found before, and an id that is one
replaces the id that was asked for. Segments that are no names change nothing, class segments
may change places and be repeated, and what is found stays in the order of the walk. -/
theorem select_narrows (hdom : dom.Reachable) (root : NodeId) (text : String) :
    let found := dom.select root text
    let asked := parseWith anyTag text
    (∀ name : String, isName name.toList →
      dom.select root (text ++ "." ++ name) =
          found.filter (fun id => (dom.element? id).any (·.hasClass name)) ∧
        dom.select root (text ++ "#" ++ name) =
          (dom.walk root).filter fun id => (dom.element? id).any fun element =>
            (asked.tag = anyTag ∨ element.tag = asked.tag) ∧ element.id = some name ∧
              ∀ other ∈ asked.classes, element.hasClass other) ∧
      (∀ body : String, (∀ c ∈ body.toList, c ≠ '.' ∧ c ≠ '#') → isName body.toList = false →
        dom.select root (text ++ "." ++ body) = found ∧
          dom.select root (text ++ "#" ++ body) = found) ∧
      (∀ first second middle tail : String, (∀ c ∈ first.toList, c ≠ '.' ∧ c ≠ '#') →
        (∀ c ∈ second.toList, c ≠ '.' ∧ c ≠ '#') → StartsSegment middle → StartsSegment tail →
        dom.select root (text ++ "." ++ first ++ middle ++ "." ++ second ++ tail) =
            dom.select root (text ++ "." ++ second ++ middle ++ "." ++ first ++ tail) ∧
          dom.select root (text ++ "." ++ first ++ middle ++ "." ++ first ++ tail) =
            dom.select root (text ++ "." ++ first ++ middle ++ tail)) ∧
      found.Sublist (dom.walk root) ∧ found.Nodup := by
  intro found asked
  refine ⟨fun name h => ⟨dom.select_class root text h, dom.select_id root text h⟩, ?_, ?_,
    List.filter_sublist, (hdom.isForest.walk_nodup root).filter _⟩
  · intro body hplain hname
    constructor
    · apply select_congr
      simp [parseWith_class anyTag text hplain, hname]
    · apply select_congr
      simp [parseWith_id anyTag text hplain, hname]
  · intro first second middle tail hfirst hsecond hmiddle htail
    exact ⟨dom.select_swap root text hfirst hsecond hmiddle htail,
      dom.select_repeat root text hfirst hmiddle htail⟩

/-- A list of two items that share one of their classes. -/
def classList : Dom :=
  Dom.empty.applyAll [.insert { tag := "ul" }, .insert { tag := "li", classes := ["a"], id := "x" },
    .insert { tag := "li", classes := ["b", "a"] }, .append ⟨0⟩ ⟨1⟩, .append ⟨0⟩ ⟨2⟩]

theorem select_classList :
    let found := classList.select ⟨0⟩ "li.a#y#"
    classList.Reachable ∧ isName "b".toList ∧ isName "-b".toList = false ∧ found = [] ∧
      classList.select ⟨0⟩ ("li.a#y#" ++ "." ++ "-b") = found ∧
      classList.select ⟨0⟩ ("li.a#y#" ++ "#" ++ "x") = [⟨1⟩] ∧
      classList.select ⟨0⟩ ("li.a" ++ "." ++ "b") = [⟨2⟩] ∧
      classList.select ⟨0⟩ ("" ++ "." ++ "b" ++ "#y" ++ "." ++ "a" ++ "#x") =
        classList.select ⟨0⟩ ("" ++ "." ++ "a" ++ "#y" ++ "." ++ "b" ++ "#x") := by
  intro found
  have hdom : classList.Reachable := ⟨_, rfl⟩
  have hb : isName "b".toList := by decide
  have hx : isName "x".toList := by decide
  have hdash : isName "-b".toList = false := by decide
  obtain ⟨hname, hother, -, -, -⟩ := select_narrows hdom ⟨0⟩ "li.a#y#"
  obtain ⟨hclass, -, -, -, -⟩ := select_narrows hdom ⟨0⟩ "li.a"
  obtain ⟨-, -, hrow, -, -⟩ := select_narrows hdom ⟨0⟩ ""
  refine ⟨hdom, hb, hdash, by decide +kernel, (hother "-b" (by simp) hdash).1, ?_, ?_, ?_⟩
  · exact (hname "x" hx).2.trans (by decide +kernel)
  · exact (hclass "b" hb).1.trans (by decide +kernel)
  · have hsegments : StartsSegment "#y" ∧ StartsSegment "#x" := by decide +kernel
    exact (hrow "b" "a" "#y" "#x" (by simp) (by simp) hsegments.1 hsegments.2).1

end Dom

end TemplateTree
