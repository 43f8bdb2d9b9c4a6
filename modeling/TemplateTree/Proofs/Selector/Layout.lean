import Mathlib.Data.List.Forall2
import Mathlib.Data.List.TakeWhile
import TemplateTree.Selector.Segment

/-! # The grammar of selectors

A selector is a tag and the pieces behind it, each opened by a marker. Its text is cut at
every marker, and a piece counts when all of it is a name. Tokens never cross a marker, so
reading by tokens comes to the same. -/

namespace TemplateTree.Selector

/-! ## Texts cut at their markers -/

def SegmentKind.marker : SegmentKind → Char
  | id => '#'
  | className => '.'

/-- One character out of `[A-Za-z0-9_]`. -/
def isWordChar (c : Char) : Bool :=
  ('A' ≤ c && c ≤ 'Z') || ('a' ≤ c && c ≤ 'z') || ('0' ≤ c && c ≤ '9') || c == '_'

/-- A whole text that matches `[A-Za-z0-9_][A-Za-z0-9_-]*`. -/
def isName : List Char → Bool
  | [] => false
  | c :: cs => isWordChar c && cs.all fun d => isWordChar d || d == '-'

/-- What stands between a marker and the next one. -/
structure Piece where
  kind : SegmentKind
  body : List Char
deriving DecidableEq, Repr

namespace Piece

/-- A piece without markers of its own. -/
def IsPlain (piece : Piece) : Prop :=
  ∀ c ∈ piece.body, c ≠ '.' ∧ c ≠ '#'

/-- The characters of pieces with their markers. -/
def written (pieces : List Piece) : List Char :=
  pieces.flatMap fun piece => piece.kind.marker :: piece.body

/-- The pieces of a kind that are names, in order. -/
def names (kind : SegmentKind) (pieces : List Piece) : List String :=
  (pieces.filter fun piece => piece.kind = kind ∧ isName piece.body).map (String.ofList ·.body)

/-- The pieces that are no names, in order. -/
def misses (pieces : List Piece) : List (SegmentKind × String) :=
  (pieces.filter fun piece => isName piece.body = false).map fun piece =>
    (piece.kind, String.ofList piece.body)

end Piece

/-- The text before the first marker, and the pieces from there on. -/
structure Layout where
  tag : List Char
  pieces : List Piece
deriving DecidableEq, Repr

namespace Layout

/-- A text is cut at every one of its markers. -/
structure IsOf (layout : Layout) (text : String) : Prop where
  written : layout.tag ++ Piece.written layout.pieces = text.toList
  tag_plain : ∀ c ∈ layout.tag, c ≠ '.' ∧ c ≠ '#'
  pieces_plain : ∀ piece ∈ layout.pieces, piece.IsPlain

/-- The selector with this layout. Every class counts, and the last id. -/
def selector (fallback : String) (layout : Layout) : Selector where
  tag := if layout.tag = [] then fallback else String.ofList layout.tag
  id := (Piece.names .id layout.pieces).getLast?
  classes := Piece.names .className layout.pieces

end Layout

namespace Piece

theorem names_cons (kind : SegmentKind) (piece : Piece) (pieces : List Piece) :
    names kind (piece :: pieces) =
      if piece.kind = kind ∧ isName piece.body then
        String.ofList piece.body :: names kind pieces
      else names kind pieces := by
  rw [names, List.filter_cons]
  simp only [decide_eq_true_eq]
  split <;> rfl

theorem misses_cons (piece : Piece) (pieces : List Piece) :
    misses (piece :: pieces) =
      if isName piece.body = false then (piece.kind, String.ofList piece.body) :: misses pieces
      else misses pieces := by
  rw [misses, List.filter_cons]
  simp only [decide_eq_true_eq]
  split <;> rfl

end Piece

/-! ## Characters -/

theorem isMarker_marker (kind : SegmentKind) : isMarker kind.marker = true := by
  cases kind <;> rfl

theorem isNameStart_eq (c : Char) : isNameStart c = isWordChar c := by
  have hupper : c.isUpper = ('A' ≤ c && c ≤ 'Z') := Bool.decide_and _ _
  have halphanum : c.isAlphanum = (c.isUpper || c.isLower || c.isDigit) := rfl
  rw [isNameStart, halphanum, hupper]
  rfl

theorem isName_cons (c : Char) (cs : List Char) :
    isName (c :: cs) = (isNameStart c && cs.all isNameChar) := by
  have hchar : isNameChar = fun d => isWordChar d || d == '-' := by
    funext d
    rw [isNameChar, isNameStart_eq]
  rw [isName, isNameStart_eq, hchar]

/-- A character that is no marker starts a name or a run of others. -/
theorem TokenKind.ofChar_of_plain {c : Char} (hc : c ≠ '.' ∧ c ≠ '#') :
    ofChar c = if isNameStart c then name else junk := by
  rw [ofChar, if_neg hc.1, if_neg hc.2]

/-- No token goes on over a marker. -/
theorem TokenKind.continues_of_isMarker (kind : TokenKind) {c : Char}
    (hc : Selector.isMarker c = true) : kind.continues c = false := by
  have hcases : c = '.' ∨ c = '#' := by simpa [Selector.isMarker] using hc
  rcases hcases with rfl | rfl <;> cases kind <;> rfl

/-! ## Tokens -/

/-- A run ends where the next text does not go on with it. -/
theorem takeWhile_append_of_head? {α : Type} {p : α → Bool} (xs : List α) {ys : List α}
    (hy : ∀ y ∈ ys.head?, p y = false) :
    (xs ++ ys).takeWhile p = xs.takeWhile p ∧ (xs ++ ys).dropWhile p = xs.dropWhile p ++ ys := by
  induction xs with
  | nil =>
      cases ys with
      | nil => exact ⟨rfl, rfl⟩
      | cons y ys => simp [hy y rfl]
  | cons x xs ih =>
      rw [List.cons_append, List.takeWhile_cons, List.takeWhile_cons, List.dropWhile_cons,
        List.dropWhile_cons, ih.1, ih.2]
      split <;> simp

@[simp] theorem tokensFrom_nil (start : Nat) : tokensFrom start [] = [] := by
  rw [tokensFrom]

/-- The tokens of a text cover it. -/
theorem join_tokensFrom (start : Nat) (cs : List Char) :
    String.join ((tokensFrom start cs).map Token.text) = String.ofList cs := by
  fun_induction tokensFrom start cs with
  | case1 => rfl
  | case2 start c cs kind token ih =>
      rw [List.map_cons, String.join_cons, ih, ← String.ofList_append, List.cons_append,
        List.takeWhile_append_dropWhile]

/-- Tokens do not cross the beginning of the next piece. -/
theorem tokensFrom_append (start : Nat) (body : List Char) {rest : List Char}
    (hrest : ∀ c ∈ rest.head?, isMarker c = true) :
    ∃ stop, tokensFrom start (body ++ rest) = tokensFrom start body ++ tokensFrom stop rest := by
  fun_induction tokensFrom start body with
  | case1 start => exact ⟨start, rfl⟩
  | case2 start c cs kind token ih =>
      obtain ⟨stop, ih⟩ := ih
      obtain ⟨htake, hdrop⟩ := takeWhile_append_of_head? cs fun c hc =>
        kind.continues_of_isMarker (hrest c hc)
      refine ⟨stop, ?_⟩
      rw [List.cons_append, tokensFrom, htake, hdrop]
      exact congrArg (token :: ·) ih

theorem kind_of_mem_tokensFrom {cs : List Char} (hcs : ∀ c ∈ cs, c ≠ '.' ∧ c ≠ '#')
    (start : Nat) : ∀ token ∈ tokensFrom start cs, token.kind = .name ∨ token.kind = .junk := by
  fun_induction tokensFrom start cs with
  | case1 => simp
  | case2 start c cs kind token ih =>
      rw [List.forall_mem_cons] at hcs ⊢
      have hkind : token.kind = if isNameStart c then .name else .junk :=
        TokenKind.ofChar_of_plain hcs.1
      refine ⟨?_, ih fun d hd => hcs.2 d (List.dropWhile_subset _ hd)⟩
      rw [hkind]
      split
      · exact .inl rfl
      · exact .inr rfl

/-! ## Segments -/

/-- Tokens without a marker go to the front of what is being cut. -/
theorem cut_append {tokens : List Token}
    (h : ∀ token ∈ tokens, token.kind = .name ∨ token.kind = .junk) (rest : List Token) :
    cut (tokens ++ rest) = (tokens ++ (cut rest).1, (cut rest).2) := by
  induction tokens with
  | nil => rfl
  | cons token tokens ih =>
      rw [List.forall_mem_cons] at h
      rw [List.cons_append, cut, ih h.2]
      rcases h.1 with hk | hk <;> simp only [hk] <;> rfl

/-- A marker opens a segment. -/
theorem cut_marker (start : Nat) (kind : SegmentKind) (cs : List Char) :
    ∃ stop, cut (tokensFrom start (kind.marker :: cs)) =
      ([], ⟨kind, (cut (tokensFrom stop cs)).1⟩ :: (cut (tokensFrom stop cs)).2) := by
  have hdrop : cs.dropWhile (TokenKind.ofChar kind.marker).continues = cs := by
    cases kind <;> cases cs <;> rfl
  let token : Token := ⟨TokenKind.ofChar kind.marker, start,
    String.ofList (kind.marker :: cs.takeWhile (TokenKind.ofChar kind.marker).continues)⟩
  refine ⟨token.stop, ?_⟩
  rw [tokensFrom, hdrop, cut]
  cases kind <;> rfl

/-- A segment holds the tokens of a piece. -/
def Segment.Holds (segment : Segment) (piece : Piece) : Prop :=
  segment.kind = piece.kind ∧ ∃ start, segment.body = tokensFrom start piece.body

namespace Segment.Holds

variable {segment : Segment} {piece : Piece}

theorem text_eq (h : segment.Holds piece) : segment.text = String.ofList piece.body := by
  obtain ⟨start, hbody⟩ := h.2
  rw [text, hbody, join_tokensFrom]

/-- A segment is a single name exactly when its whole text is one. -/
theorem name?_eq (h : segment.Holds piece) (hp : piece.IsPlain) :
    segment.name? = if isName piece.body then some (String.ofList piece.body) else none := by
  obtain ⟨start, hbody⟩ := h.2
  rw [name?, hbody]
  cases hcs : piece.body with
  | nil => rw [tokensFrom_nil]; rfl
  | cons c cs =>
      have hc : TokenKind.ofChar c = if isNameStart c then .name else .junk :=
        TokenKind.ofChar_of_plain (hp c (hcs ▸ List.mem_cons_self))
      rw [tokensFrom, isName_cons, hc]
      cases isNameStart c with
      | false =>
          simp only [Bool.false_eq_true, if_false, Bool.false_and]
          split
          · rename_i heq
            rw [← (List.cons.inj heq).1]
            rfl
          · rfl
      | true =>
          have hcontinues : TokenKind.name.continues = isNameChar := rfl
          simp only [if_true, Bool.true_and, hcontinues]
          cases hrest : cs.dropWhile isNameChar with
          | nil =>
              rw [List.dropWhile_eq_nil_iff] at hrest
              rw [tokensFrom_nil, List.all_eq_true.mpr hrest, List.takeWhile_eq_self_iff.mpr hrest]
              rfl
          | cons d ds =>
              have hall : cs.all isNameChar = false := by
                rw [Bool.eq_false_iff, Ne, List.all_eq_true, ← List.dropWhile_eq_nil_iff, hrest]
                exact List.cons_ne_nil d ds
              rw [tokensFrom, hall]
              rfl

end Segment.Holds

/-! ## Cutting and reading -/

/-- Cutting the tokens of a text cuts the text at every marker. -/
theorem cut_tokensFrom {tag : List Char} {pieces : List Piece} (htag : ∀ c ∈ tag, c ≠ '.' ∧ c ≠ '#')
    (hpieces : ∀ piece ∈ pieces, piece.IsPlain) (start : Nat) :
    (cut (tokensFrom start (tag ++ Piece.written pieces))).1 = tokensFrom start tag ∧
      List.Forall₂ Segment.Holds (cut (tokensFrom start (tag ++ Piece.written pieces))).2
        pieces := by
  induction pieces generalizing tag start with
  | nil =>
      have hcut := cut_append (kind_of_mem_tokensFrom htag start) []
      rw [List.append_nil] at hcut
      rw [Piece.written, List.flatMap_nil, List.append_nil, hcut]
      exact ⟨List.append_nil _, .nil⟩
  | cons piece pieces ih =>
      have hwritten : Piece.written (piece :: pieces) =
          piece.kind.marker :: (piece.body ++ Piece.written pieces) := rfl
      rw [List.forall_mem_cons] at hpieces
      have hmark : ∀ c ∈ (Piece.written (piece :: pieces)).head?, isMarker c = true := by
        intro c hc
        rw [hwritten, List.head?_cons, Option.mem_some_iff] at hc
        exact hc ▸ isMarker_marker piece.kind
      obtain ⟨stop, htokens⟩ := tokensFrom_append start tag hmark
      obtain ⟨inside, hmarker⟩ := cut_marker stop piece.kind (piece.body ++ Piece.written pieces)
      obtain ⟨hbody, hrest⟩ := ih hpieces.1 hpieces.2 inside
      rw [htokens, cut_append (kind_of_mem_tokensFrom htag start), hwritten, hmarker]
      exact ⟨List.append_nil _, .cons ⟨rfl, inside, hbody⟩ hrest⟩

/-- Classes accumulate behind those of before, and the last id counts. -/
theorem foldl_accept {segments : List Segment} {pieces : List Piece}
    (h : List.Forall₂ Segment.Holds segments pieces)
    (hpieces : ∀ piece ∈ pieces, piece.IsPlain) (selector : Selector) :
    segments.foldl accept selector =
      { selector with
        id := (Piece.names .id pieces).getLast?.or selector.id
        classes := selector.classes ++ Piece.names .className pieces } := by
  induction h generalizing selector with
  | nil => simp [Piece.names]
  | @cons segment piece segments pieces hs _ ih =>
      rw [List.forall_mem_cons] at hpieces
      rw [List.foldl_cons, ih hpieces.2, accept, hs.name?_eq hpieces.1, hs.1]
      rw [Piece.names_cons, Piece.names_cons]
      cases hname : isName piece.body with
      | false => simp
      | true =>
          cases hkind : piece.kind with
          | id =>
              simp [withId, List.getLast?_cons]
          | className => simp [withClass]

/-- The segments that reading leaves out are the pieces that are no names. -/
theorem filter_name?_eq {segments : List Segment} {pieces : List Piece}
    (h : List.Forall₂ Segment.Holds segments pieces)
    (hpieces : ∀ piece ∈ pieces, piece.IsPlain) :
    (segments.filter (·.name?.isNone)).map (fun segment => (segment.kind, segment.text)) =
      Piece.misses pieces := by
  induction h with
  | nil => rfl
  | @cons segment piece segments pieces hs _ ih =>
      rw [List.forall_mem_cons] at hpieces
      rw [Piece.misses_cons, List.filter_cons, hs.name?_eq hpieces.1, ← ih hpieces.2]
      cases isName piece.body with
      | false => simp [hs.1, hs.text_eq]
      | true => simp

namespace Layout

theorem exists_isOf (text : String) : ∃ layout : Layout, layout.IsOf text := by
  suffices h : ∀ cs : List Char, ∃ layout : Layout, layout.IsOf (String.ofList cs) by
    simpa using h text.toList
  intro cs
  induction cs with
  | nil => exact ⟨⟨[], []⟩, rfl, by simp, by simp⟩
  | cons c cs ih =>
      obtain ⟨⟨tag, pieces⟩, hwritten, htag, hpieces⟩ := ih
      rw [String.toList_ofList] at hwritten
      -- A marker turns what stood in front of the other pieces into a piece.
      have hopened : ∀ kind : SegmentKind, c = kind.marker →
          (⟨[], ⟨kind, tag⟩ :: pieces⟩ : Layout).IsOf (String.ofList (c :: cs)) := by
        rintro kind rfl
        refine ⟨?_, by simp, List.forall_mem_cons.mpr ⟨htag, hpieces⟩⟩
        rw [String.toList_ofList, ← hwritten]
        rfl
      by_cases hdot : c = '.'
      · exact ⟨_, hopened .className hdot⟩
      · by_cases hhash : c = '#'
        · exact ⟨_, hopened .id hhash⟩
        · refine ⟨⟨c :: tag, pieces⟩, ?_, List.forall_mem_cons.mpr ⟨⟨hdot, hhash⟩, htag⟩, hpieces⟩
          rw [String.toList_ofList, ← hwritten]
          rfl

namespace IsOf

variable {layout other : Layout} {text : String}

theorem cut_tokens (h : layout.IsOf text) :
    (cut (tokens text)).1 = tokensFrom 0 layout.tag ∧
      List.Forall₂ Segment.Holds (cut (tokens text)).2 layout.pieces := by
  rw [tokens, ← h.written]
  exact cut_tokensFrom h.tag_plain h.pieces_plain 0

theorem join_tag (h : layout.IsOf text) :
    String.join ((cut (tokens text)).1.map Token.text) = String.ofList layout.tag := by
  rw [h.cut_tokens.1, join_tokensFrom]

theorem map_segments (h : layout.IsOf text) :
    (cut (tokens text)).2.map (fun segment => ⟨segment.kind, segment.text.toList⟩) =
      layout.pieces := by
  have hholds := h.cut_tokens.2
  generalize (cut (tokens text)).2 = segments at hholds
  generalize layout.pieces = pieces at hholds
  induction hholds with
  | nil => rfl
  | cons hs _ ih => rw [List.map_cons, ih, hs.1, hs.text_eq, String.toList_ofList]

/-- A text is cut in one way only. -/
theorem unique (h : layout.IsOf text) (ho : other.IsOf text) : other = layout := by
  have htag : other.tag = layout.tag :=
    String.ofList_injective (ho.join_tag.symm.trans h.join_tag)
  have hpieces : other.pieces = layout.pieces := ho.map_segments.symm.trans h.map_segments
  calc
    other = ⟨other.tag, other.pieces⟩ := rfl
    _ = ⟨layout.tag, layout.pieces⟩ := by rw [htag, hpieces]

theorem parseWith_eq (h : layout.IsOf text) (fallback : String) :
    parseWith fallback text = layout.selector fallback := by
  calc
    parseWith fallback text =
        (cut (tokens text)).2.foldl accept
          { tag := if (String.join ((cut (tokens text)).1.map Token.text)).isEmpty then fallback
              else String.join ((cut (tokens text)).1.map Token.text) } := rfl
    _ = layout.selector fallback := by
        rw [h.join_tag, foldl_accept h.cut_tokens.2 h.pieces_plain, selector]
        simp

theorem dropped_eq (h : layout.IsOf text) :
    (dropped text).map (fun segment => (segment.kind, segment.text)) = Piece.misses layout.pieces :=
  filter_name?_eq h.cut_tokens.2 h.pieces_plain

end IsOf

end Layout

/-- Reading a selector agrees with its grammar. A text has one layout, in which it is cut at
every marker; the tag, the classes and the id are read off it, and exactly the pieces that
are no names are reported, each with its whole text. -/
theorem parse_by_layout (fallback text : String) :
    ∃ layout : Layout, layout.IsOf text ∧ (∀ other : Layout, other.IsOf text → other = layout) ∧
      parseWith fallback text = layout.selector fallback ∧
      (dropped text).map (fun segment => (segment.kind, segment.text)) =
        Piece.misses layout.pieces := by
  obtain ⟨layout, h⟩ := Layout.exists_isOf text
  exact ⟨layout, h, fun _ => h.unique, h.parseWith_eq fallback, h.dropped_eq⟩

example : parseWith "p" ".a#x.-b#y z#w.a" = { tag := "p", id := some "w", classes := ["a", "a"] } := by
  decide +kernel

end TemplateTree.Selector
