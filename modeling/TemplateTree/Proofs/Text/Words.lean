import TemplateTree.Proofs.Selector.Canonical
import TemplateTree.Text.Blank

/-! # Words between blanks

Words that are joined by spaces are found again, since a word is not empty and holds no blank.
The names of a selector are such words. -/

namespace TemplateTree

namespace Text

/-- A text that is found as it is between blanks. -/
structure IsWord (text : String) : Prop where
  ne : text ≠ ""
  solid : ∀ c ∈ text.toList, isBlank c = false

theorem pieces_of_solid {cs : List Char} (h : ∀ c ∈ cs, isBlank c = false) :
    pieces cs = (cs, []) := by
  induction cs with
  | nil => rfl
  | cons c cs ih =>
      rw [List.forall_mem_cons] at h
      rw [pieces, ih h.2, h.1]
      rfl

/-- A cut at a blank leaves what is in front of it and the pieces behind it. -/
theorem pieces_append_blank {cs : List Char} (h : ∀ c ∈ cs, isBlank c = false) {blank : Char}
    (hb : isBlank blank) (rest : List Char) :
    pieces (cs ++ blank :: rest) = (cs, (pieces rest).1 :: (pieces rest).2) := by
  induction cs with
  | nil =>
      rw [List.nil_append, pieces, hb]
      rfl
  | cons c cs ih =>
      rw [List.forall_mem_cons] at h
      rw [List.cons_append, pieces, ih h.2, h.1]
      rfl

namespace IsWord

variable {word : String}

theorem words_eq (h : IsWord word) : words word = [word] := by
  simp [words, pieces_of_solid h.solid, h.ne]

theorem words_append (h : IsWord word) (rest : String) :
    words (word ++ " " ++ rest) = word :: words rest := by
  have hblank : isBlank ' ' := by decide
  simp [words, pieces_append_blank h.solid hblank, h.ne]

end IsWord

theorem words_intercalate {list : List String} (h : ∀ word ∈ list, IsWord word) :
    words (" ".intercalate list) = list := by
  induction list with
  | nil => rfl
  | cons word rest ih =>
      rw [List.forall_mem_cons] at h
      cases rest with
      | nil => rw [String.intercalate_singleton, h.1.words_eq]
      | cons next rest => rw [String.intercalate_cons_cons, h.1.words_append, ih h.2]

/-- No piece between blanks holds a blank. -/
theorem solid_of_mem_pieces {cs piece : List Char}
    (h : piece ∈ (pieces cs).1 :: (pieces cs).2) : ∀ c ∈ piece, isBlank c = false := by
  induction cs generalizing piece with
  | nil =>
      rw [List.mem_singleton.mp h]
      exact nofun
  | cons c cs ih =>
      have hrest : ∀ piece ∈ (pieces cs).2, ∀ c ∈ piece, isBlank c = false :=
        fun piece hp => ih (List.mem_cons_of_mem _ hp)
      have hfirst : ∀ c ∈ (pieces cs).1, isBlank c = false := ih List.mem_cons_self
      rw [pieces] at h
      cases hc : isBlank c with
      | true =>
          rw [hc] at h
          rcases List.mem_cons.mp h with rfl | h
          · exact nofun
          · exact ih h
      | false =>
          rw [hc] at h
          rcases List.mem_cons.mp h with rfl | h
          · exact List.forall_mem_cons.mpr ⟨hc, hfirst⟩
          · exact hrest piece h

theorem isWord_of_mem_words {text word : String} (h : word ∈ words text) : IsWord word := by
  obtain ⟨piece, hpiece, rfl⟩ := List.mem_map.mp h
  obtain ⟨hmem, hne⟩ := List.mem_filter.mp hpiece
  refine ⟨fun hnil => ?_, fun c hc => ?_⟩
  · rw [String.ofList_eq_empty_iff.mp hnil] at hne
    cases hne
  · rw [String.toList_ofList] at hc
    exact solid_of_mem_pieces hmem c hc

/-- Below the delete character only controls and the space are blank. -/
theorem isBlank_of_visible {c : Char} (hlow : 33 ≤ c.toNat) (hhigh : c.toNat < 127) :
    isBlank c = false := by
  have hall : ∀ n < 127, 33 ≤ n → inRanges blankBounds n = false := by decide
  exact hall c.toNat hhigh hlow

end Text

namespace Selector

theorem isBlank_of_isWordChar {c : Char} (h : isWordChar c) : Text.isBlank c = false := by
  simp only [isWordChar, Bool.or_eq_true, Bool.and_eq_true, decide_eq_true_eq, beq_iff_eq,
    Char.le_def, UInt32.le_iff_toNat_le] at h
  rcases h with ((hupper | hlower) | hdigit) | rfl
  · change 65 ≤ c.toNat ∧ c.toNat ≤ 90 at hupper
    exact Text.isBlank_of_visible (by omega) (by omega)
  · change 97 ≤ c.toNat ∧ c.toNat ≤ 122 at hlower
    exact Text.isBlank_of_visible (by omega) (by omega)
  · change 48 ≤ c.toNat ∧ c.toNat ≤ 57 at hdigit
    exact Text.isBlank_of_visible (by omega) (by omega)
  · decide

theorem isWord_of_isName {name : String} (h : isName name.toList) : Text.IsWord name where
  ne := by
    rintro rfl
    cases h
  solid c hc := by
    rcases isWordChar_or_dash h c hc with hword | rfl
    · exact isBlank_of_isWordChar hword
    · decide

end Selector

end TemplateTree
