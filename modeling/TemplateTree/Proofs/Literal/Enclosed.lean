import TemplateTree.Proofs.Json.Enclosed
import TemplateTree.Proofs.Literal.Notation
import TemplateTree.Proofs.Literal.NumberText

/-! # Numbers in whole texts

A template that is a number behind keys is the same text as a literal and as JSON. The number in
it is read as it is read alone. -/

namespace TemplateTree

open Json (enclosed enclosedText)
open Json.Reader (IsPlainKey)

namespace Literal

open Lexeme

/-! ## Keys -/

section

variable {key : List Char}

theorem cooked_plain (h : IsPlainKey key) (rest : List Char) :
    cooked .text (key ++ '"' :: rest) = some (key, rest) := by
  induction key with
  | nil => rw [List.nil_append, cooked, if_pos rfl]
  | cons c key ih =>
      rw [IsPlainKey, List.forall_mem_cons] at h
      obtain ⟨⟨hquote, hbackslash, hspace⟩, hkey⟩ := h
      have hreturn : c ≠ '\r' := by
        rintro rfl
        exact hspace (by decide)
      have hadmits : QuoteStyle.text.admits c := rfl
      rw [List.cons_append, cooked, if_neg hquote, if_neg hreturn, if_neg hbackslash,
        if_pos hadmits, ih hkey]
      rfl

theorem constantFront_plain (h : IsPlainKey key) (rest : List Char) :
    constantFront ('"' :: (key ++ '"' :: ':' :: rest)) =
      some (.string (.ofText (String.ofList key)), ':' :: rest) := by
  have hquoted : quotedFront ('"' :: (key ++ '"' :: ':' :: rest)) =
      some (some key, ':' :: rest) := by
    show (cooked .text (key ++ '"' :: ':' :: rest)).map _ = _
    rw [cooked_plain h]
    rfl
  have hsuffix : afterSuffix (':' :: rest) = ':' :: rest := by
    have hcolon : Text.startsIdentifier ':' = false := by decide +kernel
    rw [afterSuffix, List.head?_cons, Option.any_some, hcolon]
    rfl
  have hsource : sourceBefore ('"' :: (key ++ '"' :: ':' :: rest)) (':' :: rest) =
      "\"" ++ String.ofList key ++ "\"" := by
    have happend := sourceBefore_append ('"' :: (key ++ ['"'])) (':' :: rest)
    rw [List.cons_append, List.append_assoc, List.singleton_append] at happend
    rw [happend, ← String.toList_inj]
    simp
  unfold constantFront
  rw [hquoted]
  dsimp only
  rw [hsuffix, hsource]
  rfl

theorem front_plain (h : IsPlainKey key) (rest : List Char) :
    Lexeme.front ('"' :: (key ++ '"' :: ':' :: rest)) =
      some ([.tree (.constant (.string (.ofText (String.ofList key))))], ':' :: rest) := by
  unfold Lexeme.front
  split
  case h_9 => rw [constantFront_plain h]
  all_goals
    next heq => cases heq

end

theorem front_colon (cs : List Char) :
    Lexeme.front (':' :: cs) = some ([.tree (.mark ':' (startsMark cs))], cs) :=
  rfl

/-! ## Objects -/

section

variable {first second lexemes : List Lexeme} {trees others : List Tree}

theorem Lexeme.Nests.append (h : Nests first trees) (hsecond : Nests second others) :
    Nests (first ++ second) (trees ++ others) := by
  intro outer done rest
  rw [List.append_assoc, h, hsecond, List.reverse_append, List.append_assoc]

theorem Lexeme.Nests.group (h : Nests lexemes trees) (delimiter : Delimiter) :
    Nests (.opening delimiter :: (lexemes ++ [.closing delimiter])) [.group delimiter trees] := by
  intro outer done rest
  rw [List.cons_append, nest, List.append_assoc, h, List.append_nil, List.singleton_append, nest,
    if_pos rfl, List.reverse_reverse]
  rfl

end

/-- A literal behind keys. -/
def behind : List String → Literal → Literal
  | [], literal => literal
  | key :: keys, literal => .object [(.ofText key, behind keys literal)]

theorem isNode_numeralTrees (numeral : Numeral) :
    IsNode (numeralTrees numeral) (.number (numeralConstant numeral)) := by
  unfold numeralTrees numeralConstant
  cases numeral.negative with
  | false => exact .number
  | true => exact IsNode.negative

/-- The code for a text that is written like a literal. -/
theorem expand_of_scan {source : String} {trees : List Tree} {literal : Literal}
    (hscan : Tree.scan source = some trees) (hnode : IsNode trees literal) :
    expand source = templateCode literal := by
  unfold expand
  rw [hscan]
  split
  · next heq => exact absurd (Option.some.inj heq) hnode.ne_nil
  · next heq =>
      cases heq
      rw [ofTrees_eq_ok_iff.mpr hnode]
      rfl
  · next heq => cases heq

variable {keys : List String}

/-- What stands behind the text is arbitrary, so that the keys can be taken one by one. -/
theorem scans_enclosed (hkeys : ∀ key ∈ keys, IsPlainKey key.toList) (numeral : Numeral)
    {rest : List Char} {lexemes : List Lexeme} (hrest : EndsNumber rest) (h : Scans rest lexemes) :
    ∃ own trees, Scans (enclosed keys numeral.chars ++ rest) (own ++ lexemes) ∧ Nests own trees ∧
      IsNode trees (behind keys (.number (numeralConstant numeral))) := by
  induction keys generalizing rest lexemes with
  | nil =>
      exact ⟨_, _, scans_chars numeral hrest h, nests_trees _, isNode_numeralTrees numeral⟩
  | cons key keys ih =>
      rw [List.forall_mem_cons] at hkeys
      have hclosing : Scans ('\x7d' :: rest) ([.closing .brace] ++ lexemes) :=
        h.cons (by decide) rfl (Nat.le_refl _)
      obtain ⟨own, trees, hscans, hnests, hnode⟩ := ih hkeys.2 (endsNumber_brace rest) hclosing
      have hcolon := hscans.cons (by decide) (front_colon _) (Nat.le_refl _)
      have hkey := hcolon.cons (by decide) (front_plain hkeys.1 _) (by simp; omega)
      have hopening : Scans ('\x7b' :: _) ([.opening .brace] ++ _) :=
        hkey.cons (by decide) rfl (Nat.le_refl _)
      rw [String.ofList_toList] at hopening
      let colon : Tree := .mark ':' (startsMark (enclosed keys numeral.chars ++ '\x7d' :: rest))
      have hentry := (nests_trees [.constant (.string (.ofText key)), colon]).append hnests
      refine ⟨_, _, ?_, hentry.group .brace, .object (.single (.intro hnode))⟩
      rw [Json.enclosed_cons_append]
      simpa using hopening

variable {token : String} {number : Number}

/-- A constant behind keys is the constant that is read alone. -/
theorem expand_enclosed (hkeys : ∀ key ∈ keys, IsPlainKey key.toList) (hne : keys ≠ [])
    (hparse : Json.parse token = .ok (.number number))
    (hblank : ∀ c ∈ token.toList, Json.Reader.isBlank c = false) {constant : NumberConstant}
    (hconstant : parse token = .ok (.number constant)) :
    expand (enclosedText keys token) = templateCode (behind keys (.number constant)) := by
  obtain ⟨numeral, -, htoken, -⟩ := Json.parse_number hparse hblank
  have hsame : numeralConstant numeral = constant := by
    rw [parse_numeral numeral htoken] at hconstant
    cases hconstant
    rfl
  obtain ⟨own, trees, hscans, hnests, hnode⟩ :=
    scans_enclosed hkeys numeral endsNumber_nil scans_nil
  rw [List.append_nil, List.append_nil, ← htoken] at hscans
  have hscan : Tree.scan (enclosedText keys token) = some trees := by
    rw [enclosedText]
    refine hnests.scan ?_ ?_
    · rwa [String.toList_ofList]
    · rw [String.toList_ofList]
      cases keys with
      | nil => contradiction
      | cons key keys => exact fun h => absurd (Option.some.inj h) (by decide)
  exact expand_of_scan hscan (hsame ▸ hnode)

end Literal

/-! ## Places of a text -/

section

variable {token selector : String} {number : Number}

theorem isPlainKey_places (h : IsPlainKey selector.toList) :
    (∀ key ∈ [selector], IsPlainKey key.toList) ∧
      (∀ key ∈ [selector, htmlKey], IsPlainKey key.toList) ∧
      ∀ key ∈ [selector, styleKey], IsPlainKey key.toList := by
  have hhtml : IsPlainKey htmlKey.toList := by simp [IsPlainKey, htmlKey]
  have hstyle : IsPlainKey styleKey.toList := by simp [IsPlainKey, styleKey]
  simp [h, hhtml, hstyle]

/-- In each place of a text, a literal holds a number as it is copied. -/
theorem Literal.expand_texts (hselector : IsPlainKey selector.toList)
    (hparse : Json.parse token = .ok (.number number))
    (hblank : ∀ c ∈ token.toList, Json.Reader.isBlank c = false) :
    let text : StringConstant := .ofText (copied token)
    expand (enclosedText [selector] token) = .ok (.element (.ofText selector) (.text text)) ∧
      expand (enclosedText [selector, htmlKey] token) =
        .ok (.element (.ofText selector) (.bag [.html (.string text)])) ∧
      expand (enclosedText [selector, styleKey] token) =
        .ok (.element (.ofText selector) (.bag [.style (.string text)])) := by
  intro text
  obtain ⟨constant, hconstant, -, htext⟩ := parse_copied hparse hblank
  obtain ⟨hcontent, hhtml, hstyle⟩ := isPlainKey_places hselector
  have hstands := standsFor_number constant
  rw [htext] at hstands
  refine ⟨?_, ?_, ?_⟩
  · rw [expand_enclosed hcontent (List.cons_ne_nil _ _) hparse hblank hconstant, behind, behind,
      templateCode_single, hstands.content]
    rfl
  · rw [expand_enclosed hhtml (List.cons_ne_nil _ _) hparse hblank hconstant, behind, behind,
      behind, templateCode_single, contentCode_object, hstands.html rfl]
    rfl
  · rw [expand_enclosed hstyle (List.cons_ne_nil _ _) hparse hblank hconstant, behind, behind,
      behind, templateCode_single, contentCode_object, hstands.style rfl]
    rfl

/-- In each place of a text, a template holds a number as it is printed. -/
theorem Template.parse_texts (ν : Type) (hselector : IsPlainKey selector.toList)
    (hparse : Json.parse token = .ok (.number number))
    (hblank : ∀ c ∈ token.toList, Json.Reader.isBlank c = false) :
    let text : String := number.display
    (parse (enclosedText [selector] token) : Except TemplateFault (Template ν)) =
        .ok (.element selector (.text text)) ∧
      (parse (enclosedText [selector, htmlKey] token) : Except TemplateFault (Template ν)) =
        .ok (.element selector (.bag (Bag.html {} text))) ∧
      (parse (enclosedText [selector, styleKey] token) : Except TemplateFault (Template ν)) =
        .ok (.element selector (.bag (Bag.style {} text))) := by
  intro text
  obtain ⟨hcontent, hhtml, hstyle⟩ := isPlainKey_places hselector
  have hstands := Json.standsFor_number ν number
  have hone : 1 ≤ Json.nestingLimit := by decide
  have htwo : 2 ≤ Json.nestingLimit := by decide
  refine ⟨?_, ?_, ?_⟩
  · rw [parse, Json.parse_enclosed hcontent hone hparse hblank]
    dsimp only
    rw [Json.behind, Json.behind, ofJson, hstands.content]
    rfl
  · rw [parse, Json.parse_enclosed hhtml htwo hparse hblank]
    dsimp only
    rw [Json.behind, Json.behind, Json.behind, ofJson, Content.ofJson, hstands.html]
    rfl
  · rw [parse, Json.parse_enclosed hstyle htwo hparse hblank]
    dsimp only
    rw [Json.behind, Json.behind, Json.behind, ofJson, Content.ofJson, hstands.style]
    rfl

end

end TemplateTree
