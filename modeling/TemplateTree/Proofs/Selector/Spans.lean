import Mathlib.Data.List.Chain
import Mathlib.Data.String.Basic
import TemplateTree.Proofs.Selector.Layout

/-! # Tokens and the bytes they cover

A token is reported with the byte at which it starts and the byte behind it. These spans lie
side by side over the whole text. What each kind accepts and which tokens may not meet leave
one way to divide a text into such spans, and that is the way of the longest match. -/

namespace TemplateTree.Selector

open String (utf8Len)

/-! ## What each kind accepts -/

namespace TokenKind

/-- The texts of a kind: a marker, a name, or a run of what is neither a marker nor out of
`[A-Za-z0-9_]`. -/
def accepts : TokenKind → List Char → Bool
  | dot, cs => cs == ['.']
  | hash, cs => cs == ['#']
  | name, cs => isName cs
  | junk, cs => !cs.isEmpty && cs.all fun c => c != '.' && c != '#' && !isWordChar c

/-- What stands behind a token does not go on with it. -/
def StopsAt (kind : TokenKind) (rest : List Char) : Prop :=
  ∀ c ∈ rest.head?, kind.continues c = false

theorem ofChar_eq_iff (c : Char) (kind : TokenKind) :
    ofChar c = kind ↔ kind.accepts [c] = true := by
  rw [ofChar, isNameStart_eq]
  split
  · subst c
    cases kind <;> decide
  · split
    · subst c
      cases kind <;> decide
    · split <;> cases kind <;> simp_all [accepts, isName]

/-- A text is of the kind of its first character when all others go on with it. -/
theorem accepts_cons_iff (kind : TokenKind) (c : Char) (cs : List Char) :
    kind.accepts (c :: cs) = true ↔ ofChar c = kind ∧ ∀ d ∈ cs, kind.continues d = true := by
  rw [ofChar_eq_iff]
  cases kind with
  | dot => simp [accepts, continues, List.eq_nil_iff_forall_not_mem]
  | hash => simp [accepts, continues, List.eq_nil_iff_forall_not_mem]
  | name => simp [accepts, isName, continues, isNameChar, isNameStart_eq]
  | junk => simp [accepts, continues, Selector.isMarker, isNameStart_eq, and_assoc]

theorem exists_cons_of_accepts {kind : TokenKind} {word : List Char}
    (h : kind.accepts word = true) : ∃ c cs, word = c :: cs := by
  cases word with
  | nil => cases kind <;> simp [accepts, isName] at h
  | cons c cs => exact ⟨c, cs, rfl⟩

/-- The kind of a token and the character behind it tell whether the token stops there. -/
theorem continues_eq_false_iff (kind : TokenKind) (c : Char) :
    kind.continues c = false ↔
      (kind = name → ofChar c ≠ name) ∧ (kind = junk → ofChar c ≠ junk) ∧
        (kind = name → ofChar c = junk → c ≠ '-') := by
  have hname := ofChar_eq_iff c name
  have hjunk := ofChar_eq_iff c junk
  simp only [accepts, isName, List.all_nil, Bool.and_true, List.isEmpty_cons, Bool.not_false,
    Bool.true_and, List.all_cons] at hname hjunk
  cases kind with
  | dot => simp [continues]
  | hash => simp [continues]
  | name =>
      by_cases hdash : c = '-'
      · subst c
        decide
      · simp [continues, isNameChar, isNameStart_eq, hname, hdash]
  | junk => simp [continues, Selector.isMarker, isNameStart_eq, hjunk]

theorem accepts_concat {kind : TokenKind} {word : List Char} {c : Char}
    (h : kind.accepts word = true) (hc : kind.continues c = true) :
    kind.accepts (word ++ [c]) = true := by
  obtain ⟨d, ds, hword⟩ := exists_cons_of_accepts h
  subst word
  obtain ⟨hkind, hds⟩ := (kind.accepts_cons_iff d ds).mp h
  rw [List.cons_append, accepts_cons_iff]
  refine ⟨hkind, fun e he => ?_⟩
  rcases List.mem_append.mp he with he | he
  · exact hds e he
  · rwa [List.mem_singleton.mp he]

theorem StopsAt.length_le {kind other : TokenKind} {word rest longer : List Char}
    (hstops : kind.StopsAt rest) (h : kind.accepts word = true)
    (hother : other.accepts longer = true) (hfront : longer <+: word ++ rest) :
    longer.length ≤ word.length := by
  obtain ⟨c, cs, hword⟩ := exists_cons_of_accepts h
  obtain ⟨d, ds, hlonger⟩ := exists_cons_of_accepts hother
  subst word longer
  obtain ⟨hdc, hfront⟩ := List.cons_prefix_cons.mp hfront
  -- Both begin with the same character, so they are of one kind.
  obtain ⟨hkind, -⟩ := (kind.accepts_cons_iff c cs).mp h
  obtain ⟨hkind', hds⟩ := (other.accepts_cons_iff d ds).mp hother
  have hsame : other = kind := by rw [← hkind', hdc, hkind]
  rcases List.prefix_or_prefix_of_prefix hfront (List.prefix_append cs rest) with hle | hge
  · exact Nat.succ_le_succ hle.length_le
  · obtain ⟨es, hes⟩ := hge
    subst ds
    cases es with
    | nil => simp
    | cons e es =>
        have hrest : e :: es <+: rest := (List.prefix_append_right_inj cs).mp hfront
        have hhead : e ∈ rest.head? := by
          obtain ⟨tail, htail⟩ := hrest
          simp [← htail]
        have hgoes := hds e (by simp)
        rw [hsame, hstops e hhead] at hgoes
        cases hgoes

/-- A token stops exactly where no kind accepts a longer text from its start. -/
theorem stopsAt_iff {kind : TokenKind} {word : List Char} (h : kind.accepts word = true)
    (rest : List Char) :
    kind.StopsAt rest ↔ ∀ (other : TokenKind) (longer : List Char), longer <+: word ++ rest →
      other.accepts longer = true → longer.length ≤ word.length := by
  constructor
  · intro hstops other longer hfront hother
    exact hstops.length_le h hother hfront
  · intro hlongest c hc
    cases rest with
    | nil => simp at hc
    | cons d rest =>
        obtain rfl : d = c := by simpa using hc
        by_contra hgoes
        rw [Bool.not_eq_false] at hgoes
        have hle := hlongest kind (word ++ [d]) (by simp) (accepts_concat h hgoes)
        simp at hle

end TokenKind

/-! ## Spans -/

/-- What is reported of a token: its kind and the bytes that it covers. -/
structure Span where
  kind : TokenKind
  start : Nat
  stop : Nat
deriving DecidableEq, Repr

def Token.span (token : Token) : Span :=
  ⟨token.kind, token.start, token.stop⟩

namespace Span

/-- The text from the first byte of a span to the one behind it. -/
def text (whole : String) (span : Span) : String :=
  String.Pos.Raw.extract whole ⟨span.start⟩ ⟨span.stop⟩

/-- A span cuts no character. -/
structure OnBoundaries (whole : String) (span : Span) : Prop where
  start : (⟨span.start⟩ : String.Pos.Raw).IsValid whole
  stop : (⟨span.stop⟩ : String.Pos.Raw).IsValid whole

/-- No two names and no two runs of junk meet, and a dash behind a name belongs to it. -/
structure MayPrecede (whole : String) (span next : Span) : Prop where
  name_name : span.kind = .name → next.kind ≠ .name
  junk_junk : span.kind = .junk → next.kind ≠ .junk
  name_dash : span.kind = .name → next.kind = .junk → (next.text whole).toList.head? ≠ some '-'

/-- Spans that lead from one byte to another without gap or overlap. -/
def Adjoin : Nat → List Span → Nat → Prop
  | start, [], stop => start = stop
  | start, span :: spans, stop => span.start = start ∧ Adjoin span.stop spans stop

end Span

/-- The spans divide a text into tokens from byte `start` on. -/
structure Divides (whole : String) (start : Nat) (spans : List Span) : Prop where
  nonempty : ∀ span ∈ spans, span.start < span.stop
  adjoin : Span.Adjoin start spans whole.utf8ByteSize
  boundaries : ∀ span ∈ spans, span.OnBoundaries whole
  accepted : ∀ span ∈ spans, span.kind.accepts (span.text whole).toList = true
  apart : spans.IsChain (Span.MayPrecede whole)

namespace Span

theorem text_append (kind : TokenKind) (before word rest : List Char) :
    text (String.ofList (before ++ word ++ rest))
      ⟨kind, utf8Len before, utf8Len (before ++ word)⟩ = String.ofList word := by
  rw [String.utf8Len_append]
  exact String.extract_of_valid before word rest

theorem isValid_append (before rest : List Char) :
    (⟨utf8Len before⟩ : String.Pos.Raw).IsValid (String.ofList (before ++ rest)) := by
  rw [String.Pos.Raw.isValid_iff_exists_append]
  refine ⟨String.ofList before, String.ofList rest, String.ofList_append, ?_⟩
  simp

theorem onBoundaries_append (kind : TokenKind) (before word rest : List Char) :
    OnBoundaries (String.ofList (before ++ word ++ rest))
      ⟨kind, utf8Len before, utf8Len (before ++ word)⟩ where
  start := by
    rw [List.append_assoc]
    exact isValid_append before (word ++ rest)
  stop := isValid_append (before ++ word) rest

/-- A span that cuts no character ends behind a front part of the rest. -/
theorem OnBoundaries.exists_word {before rest : List Char} {span : Span}
    (h : span.OnBoundaries (String.ofList (before ++ rest))) (hstart : span.start = utf8Len before)
    (hlt : span.start < span.stop) :
    ∃ word after, rest = word ++ after ∧ span.stop = utf8Len (before ++ word) := by
  obtain ⟨front, back, hsplit, hstop⟩ := String.Pos.Raw.isValid_iff_exists_append.mp h.stop
  have hlists : before ++ rest = front.toList ++ back.toList := by
    simpa using congrArg String.toList hsplit
  have hsize : span.stop = utf8Len front.toList := by
    simpa [String.Pos.Raw.ext_iff, ← String.utf8ByteSize_ofList] using hstop
  rcases List.append_eq_append_iff.mp hlists with ⟨word, hfront, hrest⟩ | ⟨word, hbefore, hback⟩
  · exact ⟨word, back.toList, hrest, by rw [hsize, hfront]⟩
  · have hlen := congrArg utf8Len hbefore
    rw [String.utf8Len_append] at hlen
    omega

end Span

/-! ## Divided texts -/

theorem divides_nil_iff (whole : String) (start : Nat) :
    Divides whole start [] ↔ start = whole.utf8ByteSize :=
  ⟨Divides.adjoin, fun h => ⟨by simp, h, by simp, by simp, .nil⟩⟩

theorem divides_cons_iff (whole : String) (start : Nat) (span : Span) (spans : List Span) :
    Divides whole start (span :: spans) ↔
      (span.start = start ∧ span.start < span.stop ∧ span.OnBoundaries whole ∧
        span.kind.accepts (span.text whole).toList = true ∧
        ∀ next ∈ spans.head?, span.MayPrecede whole next) ∧
      Divides whole span.stop spans := by
  constructor
  · intro h
    have hnonempty := List.forall_mem_cons.mp h.nonempty
    have hboundaries := List.forall_mem_cons.mp h.boundaries
    have haccepted := List.forall_mem_cons.mp h.accepted
    have hapart := List.isChain_cons.mp h.apart
    exact ⟨⟨h.adjoin.1, hnonempty.1, hboundaries.1, haccepted.1, hapart.1⟩,
      ⟨hnonempty.2, h.adjoin.2, hboundaries.2, haccepted.2, hapart.2⟩⟩
  · intro ⟨⟨hstart, hlt, hboundaries, haccepted, hapart⟩, h⟩
    exact ⟨List.forall_mem_cons.mpr ⟨hlt, h.nonempty⟩, ⟨hstart, h.adjoin⟩,
      List.forall_mem_cons.mpr ⟨hboundaries, h.boundaries⟩,
      List.forall_mem_cons.mpr ⟨haccepted, h.accepted⟩, List.isChain_cons.mpr ⟨hapart, h.apart⟩⟩

namespace Divides

variable {before rest : List Char} {spans : List Span}

theorem eq_nil (h : Divides (String.ofList (before ++ rest)) (utf8Len before) []) : rest = [] := by
  have hsize := (divides_nil_iff _ _).mp h
  rw [String.utf8ByteSize_ofList, String.utf8Len_append] at hsize
  apply String.utf8Len_eq_zero.mp
  omega

/-- The first span covers a text of its kind at the front of the rest. -/
theorem exists_word {span : Span}
    (h : Divides (String.ofList (before ++ rest)) (utf8Len before) (span :: spans)) :
    ∃ word after, rest = word ++ after ∧ span.kind.accepts word = true ∧
      span = ⟨span.kind, utf8Len before, utf8Len (before ++ word)⟩ := by
  obtain ⟨⟨hstart, hlt, hboundaries, haccepted, -⟩, -⟩ := (divides_cons_iff _ _ _ _).mp h
  obtain ⟨word, after, hrest, hstop⟩ := hboundaries.exists_word hstart hlt
  have hspan : span = ⟨span.kind, utf8Len before, utf8Len (before ++ word)⟩ := by
    rw [← hstop, ← hstart]
  refine ⟨word, after, hrest, ?_, hspan⟩
  rw [hspan, hrest, ← List.append_assoc, Span.text_append, String.toList_ofList] at haccepted
  exact haccepted

/-- The spans that may stand behind a token are those that it does not go on with. -/
theorem mayPrecede_iff (h : Divides (String.ofList (before ++ rest)) (utf8Len before) spans)
    (span : Span) :
    (∀ next ∈ spans.head?, span.MayPrecede (String.ofList (before ++ rest)) next) ↔
      span.kind.StopsAt rest := by
  cases spans with
  | nil =>
      rw [h.eq_nil]
      simp [TokenKind.StopsAt]
  | cons next spans =>
      obtain ⟨word, after, hrest, haccepts, hnext⟩ := h.exists_word
      obtain ⟨c, cs, hword⟩ := TokenKind.exists_cons_of_accepts haccepts
      -- The rest begins with the first character of the next span, which is of that span's kind.
      have hkind : TokenKind.ofChar c = next.kind :=
        ((next.kind.accepts_cons_iff c cs).mp (hword ▸ haccepts)).1
      have hhead : (next.text (String.ofList (before ++ rest))).toList.head? = some c := by
        rw [hnext, hrest, ← List.append_assoc, Span.text_append, String.toList_ofList, hword]
        rfl
      have hstops : span.kind.StopsAt rest ↔ span.kind.continues c = false := by
        simp [TokenKind.StopsAt, hrest, hword]
      rw [hstops, TokenKind.continues_eq_false_iff, hkind]
      simp only [List.head?_cons, Option.mem_some_iff, forall_eq']
      constructor
      · intro hmay
        refine ⟨hmay.name_name, hmay.junk_junk, fun hname hjunk => ?_⟩
        simpa only [hhead, ne_eq, Option.some_inj] using hmay.name_dash hname hjunk
      · intro ⟨hnames, hjunks, hdash⟩
        refine ⟨hnames, hjunks, fun hname hjunk => ?_⟩
        simpa only [hhead, ne_eq, Option.some_inj] using hdash hname hjunk

end Divides

/-- Dividing a text begins with a token that stops, and goes on behind it. -/
theorem divides_word_iff {kind : TokenKind} {word : List Char} (h : kind.accepts word = true)
    (before rest : List Char) (spans : List Span) :
    Divides (String.ofList (before ++ word ++ rest)) (utf8Len before)
        (⟨kind, utf8Len before, utf8Len (before ++ word)⟩ :: spans) ↔
      kind.StopsAt rest ∧
        Divides (String.ofList (before ++ word ++ rest)) (utf8Len (before ++ word)) spans := by
  have hlt : utf8Len before < utf8Len (before ++ word) := by
    obtain ⟨c, cs, hword⟩ := TokenKind.exists_cons_of_accepts h
    have hpos := c.utf8Size_pos
    rw [hword, String.utf8Len_append, String.utf8Len_cons]
    omega
  rw [divides_cons_iff, Span.text_append, String.toList_ofList]
  constructor
  · intro ⟨⟨_, _, _, _, hapart⟩, hrest⟩
    exact ⟨(hrest.mayPrecede_iff _).mp hapart, hrest⟩
  · intro ⟨hstops, hrest⟩
    exact ⟨⟨rfl, hlt, Span.onBoundaries_append kind before word rest, h,
      (hrest.mayPrecede_iff _).mpr hstops⟩, hrest⟩

/-! ## Texts word by word -/

/-- Every text is made of words that some kind accepts and that stop where the next begins. -/
@[elab_as_elim]
theorem words_induction {motive : List Char → Prop} (nil : motive [])
    (word : ∀ {kind : TokenKind} {word rest : List Char}, kind.accepts word = true →
      kind.StopsAt rest → motive rest → motive (word ++ rest)) (cs : List Char) : motive cs := by
  fun_induction tokensFrom 0 cs with
  | case1 => exact nil
  | case2 start c cs kind token ih =>
      have haccepts : kind.accepts (c :: cs.takeWhile kind.continues) = true := by
        rw [TokenKind.accepts_cons_iff]
        exact ⟨rfl, fun d hd => List.mem_takeWhile_imp hd⟩
      have hstops : kind.StopsAt (cs.dropWhile kind.continues) := by
        intro d hd
        have hhead := List.head?_dropWhile_not kind.continues cs
        rwa [Option.mem_def.mp hd] at hhead
      have hmotive := word haccepts hstops ih
      rwa [List.cons_append, List.takeWhile_append_dropWhile] at hmotive

theorem tokensFrom_word {kind : TokenKind} {word rest : List Char} (h : kind.accepts word = true)
    (hstops : kind.StopsAt rest) (start : Nat) :
    tokensFrom start (word ++ rest) = ⟨kind, start, String.ofList word⟩ ::
      tokensFrom (start + (String.ofList word).utf8ByteSize) rest := by
  obtain ⟨c, cs, hword⟩ := TokenKind.exists_cons_of_accepts h
  subst word
  obtain ⟨hkind, hcs⟩ := (kind.accepts_cons_iff c cs).mp h
  obtain ⟨htake, hdrop⟩ := takeWhile_append_of_head? cs hstops
  rw [List.takeWhile_eq_self_iff.mpr hcs] at htake
  rw [List.dropWhile_eq_nil_iff.mpr hcs, List.nil_append] at hdrop
  rw [List.cons_append, tokensFrom, hkind, htake, hdrop, Token.stop]

/-! ## The longest match -/

/-- The next token has the longest text that any kind accepts where it starts. -/
inductive LongestMatch : Nat → List Char → List Token → Prop where
  | nil (start : Nat) : LongestMatch start [] []
  | cons {start : Nat} {kind : TokenKind} {word rest : List Char} {found : List Token}
      (accepted : kind.accepts word = true)
      (longest : ∀ (other : TokenKind) (longer : List Char), longer <+: word ++ rest →
        other.accepts longer = true → longer.length ≤ word.length) :
      LongestMatch (start + (String.ofList word).utf8ByteSize) rest found →
      LongestMatch start (word ++ rest) (⟨kind, start, String.ofList word⟩ :: found)

theorem longestMatch_tokensFrom (start : Nat) (cs : List Char) :
    LongestMatch start cs (tokensFrom start cs) := by
  induction cs using words_induction generalizing start with
  | nil =>
      rw [tokensFrom_nil]
      exact .nil start
  | word haccepts hstops ih =>
      rw [tokensFrom_word haccepts hstops]
      exact .cons haccepts ((TokenKind.stopsAt_iff haccepts _).mp hstops) (ih _)

theorem longestMatch_iff (start : Nat) (cs : List Char) (found : List Token) :
    LongestMatch start cs found ↔ found = tokensFrom start cs := by
  constructor
  · intro h
    induction h with
    | nil start => rw [tokensFrom_nil]
    | cons accepted longest _ ih =>
        rw [tokensFrom_word accepted ((TokenKind.stopsAt_iff accepted _).mpr longest), ih]
  · intro h
    subst found
    exact longestMatch_tokensFrom start cs

/-! ## The one division of a text -/

theorem tokensFrom_append_word {kind : TokenKind} {word rest : List Char}
    (h : kind.accepts word = true) (hstops : kind.StopsAt rest) (before : List Char) :
    tokensFrom (utf8Len before) (word ++ rest) =
      ⟨kind, utf8Len before, String.ofList word⟩ ::
        tokensFrom (utf8Len (before ++ word)) rest := by
  rw [tokensFrom_word h hstops, String.utf8Len_append, String.utf8ByteSize_ofList]

theorem Token.span_word (kind : TokenKind) (before word : List Char) :
    Token.span ⟨kind, utf8Len before, String.ofList word⟩ =
      ⟨kind, utf8Len before, utf8Len (before ++ word)⟩ := by
  rw [span, stop, String.utf8ByteSize_ofList, String.utf8Len_append]

/-- The tokens of the rest divide a text from where the rest begins. -/
theorem divides_tokensFrom (before rest : List Char) :
    Divides (String.ofList (before ++ rest)) (utf8Len before)
      ((tokensFrom (utf8Len before) rest).map Token.span) := by
  induction rest using words_induction generalizing before with
  | nil =>
      rw [tokensFrom_nil, List.map_nil, List.append_nil, divides_nil_iff,
        String.utf8ByteSize_ofList]
  | @word kind word rest haccepts hstops ih =>
      rw [tokensFrom_append_word haccepts hstops, List.map_cons, Token.span_word,
        ← List.append_assoc, divides_word_iff haccepts]
      exact ⟨hstops, ih (before ++ word)⟩

theorem Divides.eq_spans {before rest : List Char} {spans : List Span}
    (h : Divides (String.ofList (before ++ rest)) (utf8Len before) spans) :
    spans = (tokensFrom (utf8Len before) rest).map Token.span := by
  -- What a span covers goes over to `before`, so that the whole text stays the same.
  induction spans generalizing before rest with
  | nil => rw [h.eq_nil, tokensFrom_nil, List.map_nil]
  | cons span spans ih =>
      obtain ⟨word, after, hrest, haccepts, hspan⟩ := h.exists_word
      rw [hspan, hrest, ← List.append_assoc, divides_word_iff haccepts] at h
      rw [hrest, tokensFrom_append_word haccepts h.1, List.map_cons, Token.span_word, ← hspan,
        ← ih h.2]

/-- What is read off the span of a token is its text. -/
theorem text_span_tokensFrom (before rest : List Char) :
    (tokensFrom (utf8Len before) rest).map
        (fun token => token.span.text (String.ofList (before ++ rest))) =
      (tokensFrom (utf8Len before) rest).map Token.text := by
  induction rest using words_induction generalizing before with
  | nil => rw [tokensFrom_nil, List.map_nil, List.map_nil]
  | @word kind word rest haccepts hstops ih =>
      rw [tokensFrom_append_word haccepts hstops, List.map_cons, List.map_cons, Token.span_word,
        ← List.append_assoc, ih (before ++ word), Span.text_append]

/-- A text is divided into tokens in one way only. These are the tokens that are read, each
with the text that its span covers, and each is the longest match where it starts. -/
theorem tokens_divide (text : String) :
    (∀ spans : List Span, Divides text 0 spans ↔ spans = (tokens text).map Token.span) ∧
      (tokens text).map (fun token => token.span.text text) = (tokens text).map Token.text ∧
      ∀ found : List Token, LongestMatch 0 text.toList found ↔ found = tokens text := by
  obtain ⟨cs, hcs⟩ := text.exists_eq_ofList
  subst text
  rw [tokens, String.toList_ofList]
  refine ⟨fun spans => ⟨fun h => ?_, fun h => ?_⟩, ?_, longestMatch_iff 0 cs⟩
  · -- Nothing stands before the first token.
    have h : Divides (String.ofList ([] ++ cs)) (utf8Len []) spans := h
    exact h.eq_spans
  · subst spans
    exact divides_tokensFrom [] cs
  · exact text_span_tokensFrom [] cs

/-- A dash belongs to the name in front of it, and otherwise to a run of junk. -/
theorem tokens_divide_dashes :
    Divides "-é-.a-b- -" 0 [⟨.junk, 0, 4⟩, ⟨.dot, 4, 5⟩, ⟨.name, 5, 9⟩, ⟨.junk, 9, 11⟩] ∧
      ¬ Divides "-é-.a-b- -" 0 [⟨.junk, 0, 4⟩, ⟨.dot, 4, 5⟩, ⟨.name, 5, 8⟩, ⟨.junk, 8, 11⟩] := by
  obtain ⟨hdivides, -, -⟩ := tokens_divide "-é-.a-b- -"
  rw [hdivides, hdivides]
  decide +kernel

end TemplateTree.Selector
