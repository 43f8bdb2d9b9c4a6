import TemplateTree.Proofs.Html.Unambiguous
import TemplateTree.Proofs.Html.Writing

/-! # HTML without its tags

Deleting the tags from the HTML inside a node and reading its three entities gives the texts
below the node, when no void element hides any of them and no name closes its tag early. -/

namespace TemplateTree

namespace Html

/-! ## Tags and entities -/

/-- Deletes every span from an opening bracket to the next closing one. The flag says whether
one is being deleted. -/
def stripTags (inTag : Bool) : List Char → List Char
  | [] => []
  | c :: cs =>
    if inTag then stripTags (c != '>') cs
    else if c = '<' then stripTags true cs
    else c :: stripTags false cs

/-- Reads the three entities of texts, from left to right and once. -/
def unescape : List Char → List Char
  | '&' :: 'a' :: 'm' :: 'p' :: ';' :: rest => '&' :: unescape rest
  | '&' :: 'l' :: 't' :: ';' :: rest => '<' :: unescape rest
  | '&' :: 'g' :: 't' :: ';' :: rest => '>' :: unescape rest
  | c :: rest => c :: unescape rest
  | [] => []

theorem unescape_cons {c : Char} (h : c ≠ '&') (rest : List Char) :
    unescape (c :: rest) = c :: unescape rest := by
  conv_lhs => unfold unescape
  split <;> simp_all

theorem unescape_escapeChar (c : Char) (rest : List Char) :
    unescape (escapeChar false c ++ rest) = c :: unescape rest := by
  unfold escapeChar
  split_ifs with hamp hl hg hq
  · rw [hamp]
    rfl
  · rw [hl]
    rfl
  · rw [hg]
    rfl
  · cases hq.2
  · exact unescape_cons hamp rest

theorem unescape_escape (text : String) : unescape (escape false text).toList = text.toList := by
  rw [toList_escape]
  induction text.toList with
  | nil => rfl
  | cons c cs ih => rw [List.flatMap_cons, unescape_escapeChar, ih]

theorem stripTags_append {text : List Char} (h : ∀ c ∈ text, c ≠ '<') (rest : List Char) :
    stripTags false (text ++ rest) = text ++ stripTags false rest := by
  induction text with
  | nil => rfl
  | cons c cs ih =>
      rw [List.forall_mem_cons] at h
      simp [stripTags, h.1, ih h.2]

theorem stripTags_span {tag : List Char} (h : ∀ c ∈ tag, c ≠ '>') (rest : List Char) :
    stripTags false ('<' :: (tag ++ '>' :: rest)) = stripTags false rest := by
  have hin : stripTags true (tag ++ '>' :: rest) = stripTags false rest := by
    induction tag with
    | nil => rfl
    | cons c cs ih =>
        rw [List.forall_mem_cons] at h
        rw [List.cons_append, stripTags, if_pos rfl, bne_iff_ne.mpr h.1, ih h.2]
  exact hin

end Html

open Html

/-! ## Tags of elements -/

/-- Neither the tag nor the name of an attribute ends a tag of the element. -/
structure Element.Unbroken (element : Element) : Prop where
  tag : '>' ∉ element.tag.toList
  names : ∀ entry ∈ element.attributes, '>' ∉ entry.1.toList

namespace Element.Unbroken

variable {element : Element}

theorem shownAttributes (h : element.Unbroken) :
    ∀ entry ∈ shownAttributes element, '>' ∉ entry.1.toList := by
  intro entry he
  simp only [shownAttributes_eq, List.mem_append, Option.mem_toList,
    Option.map_eq_some_iff] at he
  rcases he with (⟨className, -, rfl⟩ | ⟨id, -, rfl⟩) | he
  · show '>' ∉ "class".toList
    decide
  · show '>' ∉ "id".toList
    decide
  · exact h.names entry he

theorem ne_of_mem_attributeText {entry : String × String} (h : '>' ∉ entry.1.toList) :
    ∀ c ∈ (attributeText entry.1 entry.2).toList, c ≠ '>' := by
  rintro c hc rfl
  have hv : '>' ∉ (escape true entry.2).toList := fun hm => (ne_bracket_of_mem_escape hm).2 rfl
  simp [toList_attributeText, h, hv] at hc

theorem stripTags_startTag (h : element.Unbroken) (rest : List Char) :
    stripTags false ((startTag element).toList ++ rest) = stripTags false rest := by
  rw [toList_startTag, List.cons_append, ← List.append_assoc, List.append_assoc]
  refine stripTags_span ?_ rest
  rw [List.forall_mem_append]
  refine ⟨fun c hc he => h.tag (he ▸ hc), fun c hc => ?_⟩
  obtain ⟨entry, he, hm⟩ := List.mem_flatMap.mp hc
  exact ne_of_mem_attributeText (h.shownAttributes entry he) c hm

theorem stripTags_endTag (h : element.Unbroken) (rest : List Char) :
    stripTags false ((endTag element).toList ++ rest) = stripTags false rest := by
  rw [ElementTree.toList_endTag, List.cons_append, List.cons_append, List.append_assoc]
  have hplain : ∀ c ∈ '/' :: element.tag.toList, c ≠ '>' :=
    List.forall_mem_cons.mpr ⟨by decide, fun c hc he => h.tag (he ▸ hc)⟩
  exact stripTags_span hplain rest

end Element.Unbroken

/-! ## Nodes -/

namespace Dom

variable {dom : Dom} {start id : NodeId} {element : Element}

/-- The texts below a node are its own one and those of its children. -/
theorem IsForest.textContent_eq (hf : dom.IsForest) (h : dom.element? id = some element) :
    dom.textContent id =
      element.text.getD "" ++ String.join ((dom.children id).map dom.textContent) := by
  have hl : dom.contains id := by rw [contains, h]; rfl
  have hbelow : String.join (((dom.children id).flatMap dom.walk).filterMap fun node =>
      (dom.element? node).bind (·.text)) =
        String.join ((dom.children id).map dom.textContent) := by
    induction dom.children id with
    | nil => rfl
    | cons child rest ih =>
        rw [List.flatMap_cons, List.filterMap_append, String.join_append, ih, List.map_cons,
          String.join_cons, textContent]
  rw [textContent, hf.walk_eq hl, List.filterMap_cons, h, Option.bind_some]
  cases element.text with
  | none => rw [hbelow, Option.getD_none, String.empty_append]
  | some text => rw [String.join_cons, hbelow, Option.getD_some]

/-- Without its tags the HTML of a node is the escaped text below it. -/
def Strips (dom : Dom) (id : NodeId) : Prop :=
  ∀ rest, stripTags false ((dom.html id).toList ++ rest) =
    (escape false (dom.textContent id)).toList ++ stripTags false rest

theorem stripTags_join {ids : List NodeId} (h : ∀ id ∈ ids, dom.Strips id) (rest : List Char) :
    stripTags false ((String.join (ids.map dom.html)).toList ++ rest) =
      (escape false (String.join (ids.map dom.textContent))).toList ++ stripTags false rest := by
  induction ids with
  | nil => rfl
  | cons id ids ih =>
      rw [List.forall_mem_cons] at h
      rw [List.map_cons, List.map_cons, String.join_cons, String.join_cons, escape_append,
        String.toList_append, String.toList_append, List.append_assoc, List.append_assoc, h.1,
        ih h.2]

/-- The text of an element and the HTML of its children, without tags. -/
theorem IsForest.stripTags_content (hf : dom.IsForest) (he : dom.element? id = some element)
    (h : ∀ child ∈ dom.children id, dom.Strips child) (rest : List Char) :
    stripTags false ((ownText element ++ String.join ((dom.children id).map dom.html)).toList ++
      rest) = (escape false (dom.textContent id)).toList ++ stripTags false rest := by
  rw [String.toList_append, List.append_assoc, ownText,
    stripTags_append (fun c hc => (ne_bracket_of_mem_escape hc).1), stripTags_join h,
    hf.textContent_eq he, escape_append, String.toList_append, List.append_assoc]

/-- By induction from the children: a tag is one span, and text has none. -/
theorem IsForest.strips (hf : dom.IsForest) (hl : dom.contains id)
    (h : ∀ below ∈ dom.walk id, ∀ element, dom.element? below = some element →
      isVoidTag element.tag = false ∧ element.Unbroken) : dom.Strips id := by
  induction id using hf.induction with
  | step id ih =>
      obtain ⟨element, he⟩ := Option.isSome_iff_exists.mp hl
      rw [hf.walk_eq hl, List.forall_mem_cons] at h
      obtain ⟨hvoid, hunbroken⟩ := h.1 element he
      have hchildren : ∀ child ∈ dom.children id, dom.Strips child := fun child hc =>
        ih child hc (hf.mem_children_live hc) fun below hb =>
          h.2 below (List.mem_flatMap.mpr ⟨child, hc, hb⟩)
      intro rest
      have hhtml : dom.html id = startTag element ++
          (ownText element ++ String.join ((dom.children id).map dom.html)) ++ endTag element := by
        rw [hf.html_eq_outer he, outer, hvoid, ← String.append_assoc]
        rfl
      rw [hhtml, String.toList_append, String.toList_append, List.append_assoc, List.append_assoc,
        hunbroken.stripTags_startTag, hf.stripTags_content he hchildren,
        hunbroken.stripTags_endTag]

theorem IsForest.unescape_innerHtml (hf : dom.IsForest) (hl : dom.contains start)
    (h : ∀ id ∈ dom.walk start, id ≠ start → ∀ element, dom.element? id = some element →
      isVoidTag element.tag = false ∧ element.Unbroken) :
    unescape (stripTags false (dom.innerHtml start).toList) =
      (dom.textContent start).toList := by
  obtain ⟨element, he⟩ := Option.isSome_iff_exists.mp hl
  have hn := hf.walk_nodup start
  rw [hf.walk_eq hl, List.nodup_cons] at hn
  rw [hf.walk_eq hl, List.forall_mem_cons] at h
  have hchildren : ∀ child ∈ dom.children start, dom.Strips child := by
    intro child hc
    refine hf.strips (hf.mem_children_live hc) fun below hb => ?_
    have hm : below ∈ (dom.children start).flatMap dom.walk := List.mem_flatMap.mpr ⟨child, hc, hb⟩
    exact h.2 below hm fun heq => hn.1 (heq ▸ hm)
  have hstrip := hf.stripTags_content he hchildren []
  rw [List.append_nil] at hstrip
  rw [innerHtml, he, hstrip, stripTags, List.append_nil, unescape_escape]

/-- Writing a node ends, with the HTML of the node and start tags for its walk without what is
strictly below a void node of it, each once. Where no node strictly below is void and no name
closes its tag, deleting the tags from the HTML inside a node and reading the entities gives
the text below the node. -/
theorem html_follows_walk (hdom : dom.Reachable) (hl : dom.contains start) :
    (∀ starts out, dom.Writes [start] starts out ↔
      starts = dom.shown start ∧ out = dom.html start) ∧
      (dom.shown start).Nodup ∧
      ((∀ id ∈ dom.walk start, id ≠ start → ∀ element, dom.element? id = some element →
          isVoidTag element.tag = false ∧ element.Unbroken) →
        unescape (stripTags false (dom.innerHtml start).toList) =
          (dom.textContent start).toList) := by
  have hf : dom.IsForest := hdom.isForest
  exact ⟨hf.writes_iff start, (hf.walk_nodup start).filter _, hf.unescape_innerHtml hl⟩

/-- A line break with a text and an emphasis that its HTML hides. -/
def hiddenText : Dom :=
  Dom.empty.applyAll [.insert { tag := "br", text := some "a < b & " },
    .insert { tag := "i", attributes := [("title", "<&>")], text := some "\"c\" > d" },
    .append ⟨0⟩ ⟨1⟩]

theorem html_hiddenText :
    let inner := "a &lt; b &amp; <i title=\"&lt;&amp;&gt;\">\"c\" &gt; d</i>"
    hiddenText.Reachable ∧ hiddenText.contains ⟨0⟩ ∧ hiddenText.walk ⟨0⟩ = [⟨0⟩, ⟨1⟩] ∧
      hiddenText.Writes [⟨0⟩] [⟨0⟩] "<br>" ∧ hiddenText.innerHtml ⟨0⟩ = inner ∧
      unescape (stripTags false inner.toList) = "a < b & \"c\" > d".toList := by
  intro inner
  have hdom : hiddenText.Reachable := ⟨_, rfl⟩
  have hl : hiddenText.contains ⟨0⟩ := by decide +kernel
  have hwalk : hiddenText.walk ⟨0⟩ = [⟨0⟩, ⟨1⟩] := by decide +kernel
  have hinner : hiddenText.innerHtml ⟨0⟩ = inner := by decide +kernel
  obtain ⟨hwrites, -, hstrip⟩ := html_follows_walk hdom hl
  have hrun := (hwrites [⟨0⟩] "<br>").mpr (by decide +kernel)
  rw [hwalk, hinner] at hstrip
  refine ⟨hdom, hl, hwalk, hrun, hinner, (hstrip ?_).trans (by decide +kernel)⟩
  rintro id hid hne element he
  obtain rfl : id = ⟨1⟩ := by simpa [hne] using hid
  have hone : hiddenText.element? ⟨1⟩ =
      some { tag := "i", attributes := [("title", "<&>")], text := some "\"c\" > d" } := by
    decide +kernel
  cases he.symm.trans hone
  exact ⟨by decide, by decide, by decide⟩

end Dom

end TemplateTree
