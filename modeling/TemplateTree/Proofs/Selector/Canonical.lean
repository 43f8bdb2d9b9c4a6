import TemplateTree.Proofs.Selector.Layout

/-! # Canonical texts of selectors

A selector is written as its tag, then every class, then the id. Reading that text gives the
selector back exactly when it has a tag that can be one and names for its classes and its id,
and every selector that has been read is of this kind. -/

namespace TemplateTree.Selector

/-- The tag is not empty and holds no marker, and the classes and the id are names. -/
structure Readable (selector : Selector) : Prop where
  tag_ne : selector.tag ≠ ""
  tag_plain : ∀ c ∈ selector.tag.toList, c ≠ '.' ∧ c ≠ '#'
  classes : ∀ name ∈ selector.classes, isName name.toList
  id : ∀ name ∈ selector.id, isName name.toList

/-! ## Names -/

theorem isWordChar_plain {c : Char} (h : isWordChar c) : c ≠ '.' ∧ c ≠ '#' := by
  constructor <;> rintro rfl <;> exact absurd h (by decide)

theorem isWordChar_or_dash {cs : List Char} (h : isName cs) : ∀ c ∈ cs, isWordChar c ∨ c = '-' := by
  cases cs with
  | nil => cases h
  | cons c cs =>
      rw [isName, Bool.and_eq_true, List.all_eq_true] at h
      refine List.forall_mem_cons.mpr ⟨.inl h.1, fun d hd => ?_⟩
      simpa only [Bool.or_eq_true, beq_iff_eq] using h.2 d hd

theorem isName_plain {cs : List Char} (h : isName cs) : ∀ c ∈ cs, c ≠ '.' ∧ c ≠ '#' := by
  intro c hc
  rcases isWordChar_or_dash h c hc with hword | rfl
  · exact isWordChar_plain hword
  · decide

namespace Piece

theorem names_append (kind : SegmentKind) (first second : List Piece) :
    names kind (first ++ second) = names kind first ++ names kind second := by
  rw [names, List.filter_append, List.map_append]
  rfl

theorem isName_of_mem_names {kind : SegmentKind} {pieces : List Piece} {name : String}
    (h : name ∈ names kind pieces) : isName name.toList := by
  obtain ⟨piece, hp, rfl⟩ := List.mem_map.mp h
  obtain ⟨-, hname⟩ := of_decide_eq_true (List.mem_filter.mp hp).2
  rwa [String.toList_ofList]

/-- Pieces made of names give these names for their own kind and none for the other. -/
theorem names_map {kind other : SegmentKind} {list : List String}
    (h : ∀ name ∈ list, isName name.toList) :
    names other (list.map fun name => ⟨kind, name.toList⟩) =
      if kind = other then list else [] := by
  induction list with
  | nil => exact (ite_self _).symm
  | cons name rest ih =>
      rw [List.forall_mem_cons] at h
      rw [List.map_cons, names_cons, ih h.2, h.1, String.ofList_toList]
      by_cases hkind : kind = other <;> simp [hkind]

end Piece

/-! ## Written selectors -/

/-- The tag and the pieces that a selector is written with. -/
def layout (selector : Selector) : Layout where
  tag := selector.tag.toList
  pieces := selector.classes.map (fun name => ⟨.className, name.toList⟩) ++
    selector.id.toList.map fun name => ⟨.id, name.toList⟩

theorem toList_display (selector : Selector) :
    selector.display.toList = selector.layout.tag ++ Piece.written selector.layout.pieces := by
  have hclasses : (String.join (selector.classes.map ("." ++ ·))).toList =
      Piece.written (selector.classes.map fun name => ⟨.className, name.toList⟩) := by
    simp [String.toList_join, Piece.written, SegmentKind.marker, List.flatMap_map]
  have hid : ((selector.id.map ("#" ++ ·)).getD "").toList =
      Piece.written (selector.id.toList.map fun name => ⟨.id, name.toList⟩) := by
    cases selector.id <;> simp [Piece.written, SegmentKind.marker]
  rw [display, String.toList_append, String.toList_append, hclasses, hid, layout, Piece.written,
    Piece.written, Piece.written, List.flatMap_append, List.append_assoc]

namespace Readable

variable {selector : Selector}

theorem layout_isOf (h : selector.Readable) : selector.layout.IsOf selector.display where
  written := selector.toList_display.symm
  tag_plain := h.tag_plain
  pieces_plain := by
    intro piece hp
    rcases List.mem_append.mp hp with hp | hp
    · obtain ⟨name, hname, rfl⟩ := List.mem_map.mp hp
      exact isName_plain (h.classes name hname)
    · obtain ⟨name, hname, rfl⟩ := List.mem_map.mp hp
      exact isName_plain (h.id name (Option.mem_toList.mp hname))

theorem selector_layout (h : selector.Readable) (fallback : String) :
    selector.layout.selector fallback = selector := by
  have hid : ∀ name ∈ selector.id.toList, isName name.toList :=
    fun name hname => h.id name (Option.mem_toList.mp hname)
  have htag : selector.tag.toList ≠ [] := fun hnil => h.tag_ne (String.toList_eq_nil_iff.mp hnil)
  rw [Layout.selector, layout, if_neg htag, Piece.names_append, Piece.names_append,
    Piece.names_map h.classes, Piece.names_map h.classes, Piece.names_map hid,
    Piece.names_map hid]
  cases selector with
  | mk tag id classes => cases id <;> simp

/-- What is read has a tag, if only the given one, and only names are kept. -/
theorem of_parseWith {fallback : String} (hne : fallback ≠ "")
    (hplain : ∀ c ∈ fallback.toList, c ≠ '.' ∧ c ≠ '#') (text : String) :
    (parseWith fallback text).Readable := by
  obtain ⟨layout, h⟩ := Layout.exists_isOf text
  rw [h.parseWith_eq]
  refine ⟨?_, ?_, fun name => Piece.isName_of_mem_names, fun name hname => ?_⟩
  · rw [Layout.selector]
    split
    · exact hne
    · rename_i htag
      exact fun hnil => htag (String.ofList_eq_empty_iff.mp hnil)
  · rw [Layout.selector]
    split
    · exact hplain
    · rw [String.toList_ofList]
      exact h.tag_plain
  · exact Piece.isName_of_mem_names (List.mem_of_getLast? hname)

theorem parse_display (h : selector.Readable) : parse selector.display = selector :=
  (h.layout_isOf.parseWith_eq defaultTag).trans (h.selector_layout defaultTag)

end Readable

/-- A selector comes back from its canonical text exactly when it is readable. What has been
read is, whatever the text and for every tag to fall back on that could have been read itself,
so that its canonical text stays as it is. -/
theorem parse_display_iff :
    (∀ selector : Selector, parse selector.display = selector ↔ selector.Readable) ∧
      ∀ text fallback : String, fallback ≠ "" → (∀ c ∈ fallback.toList, c ≠ '.' ∧ c ≠ '#') →
        parse (parseWith fallback text).display = parseWith fallback text ∧
          (parse (parseWith fallback text).display).display =
            (parseWith fallback text).display := by
  refine ⟨fun selector => ⟨fun h => ?_, Readable.parse_display⟩, fun text fallback hne hplain => ?_⟩
  · rw [← h]
    exact .of_parseWith (by decide) (by simp [defaultTag]) _
  · have hfixed := (Readable.of_parseWith hne hplain text).parse_display
    exact ⟨hfixed, congrArg display hfixed⟩

/-- A class with a marker in it comes back as two, and what a text drops stays dropped. -/
theorem parse_display_twoClasses :
    let joined : Selector := { tag := "p", classes := ["a.b"] }
    let read := parseWith "li" "#x.-y.z é.9-"
    ¬ joined.Readable ∧ parse joined.display = { tag := "p", classes := ["a", "b"] } ∧
      parse joined.display ≠ joined ∧ read = { tag := "li", id := some "x", classes := ["9-"] } ∧
      parse read.display = read := by
  intro joined read
  obtain ⟨hiff, hfixed⟩ := parse_display_iff
  have hjoined : ¬ joined.Readable := fun h => absurd (h.classes "a.b" (by decide)) (by decide)
  exact ⟨hjoined, by decide +kernel, fun h => hjoined ((hiff joined).mp h), by decide +kernel,
    (hfixed _ "li" (by decide) (by simp)).1⟩

end TemplateTree.Selector
