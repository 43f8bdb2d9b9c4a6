import Mathlib.Data.List.TakeWhile
import TemplateTree.Json.Fault
import TemplateTree.Proofs.Html.Escape

/-! # Places at the end of messages

A message is cut before a place if it ends in one, in whatever decimal notation. Marks end
where digits begin, so it can be cut in one way only. -/

namespace TemplateTree.Json

/-- A number below 2⁶⁴ in decimal notation, which may start with zeros. -/
structure IsNumeral (n : Nat) (digits : List Char) : Prop where
  nonempty : digits ≠ []
  digit : ∀ d ∈ digits, d.isDigit
  value : digits.foldl (fun n d => 10 * n + (d.toNat - '0'.toNat)) 0 = n
  lt : n < twoTo 64

/-- A message of some words and then a place. -/
def EndsInPlace (message words : List Char) (position : Position) : Prop :=
  ∃ line column, IsNumeral position.line line ∧ IsNumeral position.column column ∧
    message = words ++ Position.lineMark.toList ++ line ++ Position.columnMark.toList ++ column

/-- Digits at the end and what stands before them are determined when that is no digit. -/
theorem append_digits_inj {before before' digits digits' : List Char} {mark : Char}
    (hm : mark.isDigit = false) (hd : ∀ d ∈ digits, d.isDigit) (hd' : ∀ d ∈ digits', d.isDigit)
    (h : before ++ mark :: digits = before' ++ mark :: digits') :
    before = before' ∧ digits = digits' := by
  have hr := congrArg List.reverse h
  simp only [List.reverse_append, List.reverse_cons, List.append_assoc, List.cons_append,
    List.nil_append] at hr
  obtain ⟨hdigits, hbefore⟩ := Html.append_inj_of_stop (fun c => c.isDigit = false)
    (by simpa using hd) (by simpa using hd') ⟨mark, rfl, hm⟩ ⟨mark, rfl, hm⟩ hr
  exact ⟨List.reverse_injective (List.cons.inj hbefore).2, List.reverse_injective hdigits⟩

theorem EndsInPlace.unique {message words words' : List Char} {position position' : Position}
    (h : EndsInPlace message words position) (h' : EndsInPlace message words' position') :
    words = words' ∧ position = position' := by
  obtain ⟨line, column, hl, hc, rfl⟩ := h
  obtain ⟨line', column', hl', hc', he⟩ := h'
  have hline : Position.lineMark.toList = " at line".toList ++ [' '] := rfl
  have hcolumn : Position.columnMark.toList = " column".toList ++ [' '] := rfl
  simp only [hline, hcolumn, List.append_assoc, List.singleton_append] at he
  simp only [← List.append_assoc] at he
  obtain ⟨hb, rfl⟩ := append_digits_inj rfl hc.digit hc'.digit he
  obtain ⟨hw, rfl⟩ := append_digits_inj rfl hl.digit hl'.digit (List.append_cancel_right hb)
  obtain ⟨n, m⟩ := position
  obtain ⟨n', m'⟩ := position'
  refine ⟨List.append_cancel_right hw, ?_⟩
  rw [Position.mk.injEq]
  exact ⟨hl.value.symm.trans hl'.value, hc.value.symm.trans hc'.value⟩

namespace Position

theorem numberAfter?_of_isNumeral (mark : String) {digits rest : List Char} {n : Nat}
    (hn : IsNumeral n digits) (hr : ∀ d ∈ rest.head?, d.isDigit = false) :
    numberAfter? mark (mark.toList ++ digits ++ rest) = some (n, rest) := by
  have ht : rest.takeWhile Char.isDigit = [] := by
    cases rest <;> simp_all
  have hd : rest.dropWhile Char.isDigit = rest := by
    cases rest <;> simp_all
  have hp : mark.toList.isPrefixOf? (mark.toList ++ digits ++ rest) = some (digits ++ rest) := by
    rw [List.isPrefixOf?_eq_some_iff_append_eq, List.append_assoc]
  rw [numberAfter?, hp, Option.bind_eq_bind, Option.bind_some,
    List.takeWhile_append_of_pos hn.digit, List.dropWhile_append_of_pos hn.digit, ht, hd,
    List.append_nil]
  dsimp only
  rw [hn.value, if_neg]
  simp [hn.nonempty, hn.lt]

theorem exists_of_numberAfter? {mark : String} {cs rest : List Char} {n : Nat}
    (h : numberAfter? mark cs = some (n, rest)) :
    ∃ digits, IsNumeral n digits ∧ cs = mark.toList ++ digits ++ rest := by
  obtain ⟨behind, hb, h⟩ := Option.bind_eq_some_iff.mp h
  rw [List.isPrefixOf?_eq_some_iff_append_eq] at hb
  dsimp only at h
  split at h
  · cases h
  · next hv =>
      cases h
      simp only [List.isEmpty_iff, not_or, Nat.not_le] at hv
      refine ⟨_, ⟨hv.1, fun d hd => List.mem_takeWhile_imp hd, rfl, hv.2⟩, ?_⟩
      rw [List.append_assoc, List.takeWhile_append_dropWhile, hb]

theorem ofText?_eq_some_iff {cs : List Char} {position : Position} :
    ofText? cs = some position ↔ EndsInPlace cs [] position := by
  constructor
  · intro h
    obtain ⟨⟨n, middle⟩, hline, hrest⟩ := Option.bind_eq_some_iff.mp h
    obtain ⟨⟨m, last⟩, hcolumn, hlast⟩ := Option.bind_eq_some_iff.mp hrest
    obtain ⟨line, hl, rfl⟩ := exists_of_numberAfter? hline
    obtain ⟨column, hc, rfl⟩ := exists_of_numberAfter? hcolumn
    dsimp only at hlast
    split at hlast
    · next he =>
        cases hlast
        rw [List.isEmpty_iff] at he
        exact ⟨line, column, hl, hc, by simp [he]⟩
    · cases hlast
  · rintro ⟨line, column, hl, hc, rfl⟩
    have hend : ∀ d ∈ ([] : List Char).head?, d.isDigit = false := by simp
    have hmark : ∀ d ∈ (columnMark.toList ++ column).head?, d.isDigit = false := by
      simp [columnMark]
    have hcolumn := numberAfter?_of_isNumeral columnMark hc hend
    have hline := numberAfter?_of_isNumeral lineMark hl hmark
    simp only [List.append_nil, List.append_assoc] at hline hcolumn
    rw [ofText?, List.nil_append, List.append_assoc, List.append_assoc, hline, Option.bind_eq_bind,
      Option.bind_some]
    dsimp only
    rw [hcolumn]
    rfl

theorem endsInPlace_of_split? {message words : List Char} {position : Position}
    (h : split? message = some (words, position)) : EndsInPlace message words position := by
  induction message generalizing words with
  | nil => cases h
  | cons c cs ih =>
      rw [split?] at h
      split at h
      · next cut place hs =>
          cases h
          obtain ⟨line, column, hl, hc, rfl⟩ := ih hs
          exact ⟨line, column, hl, hc, rfl⟩
      · obtain ⟨place, hp, he⟩ := Option.map_eq_some_iff.mp h
        cases he
        exact ofText?_eq_some_iff.mp hp

/-- What ends in a place is cut somewhere. -/
theorem isSome_split?_append {cs : List Char} (words : List Char) (h : (split? cs).isSome) :
    (split? (words ++ cs)).isSome := by
  induction words with
  | nil => exact h
  | cons c words ih =>
      obtain ⟨cut, hcut⟩ := Option.isSome_iff_exists.mp ih
      rw [List.cons_append, split?, hcut]
      rfl

theorem isSome_split?_of_ofText? {cs : List Char} (h : (ofText? cs).isSome) :
    (split? cs).isSome := by
  cases cs with
  | nil => cases h
  | cons c cs =>
      rw [split?]
      split
      · rfl
      · rw [Option.isSome_map]
        exact h

theorem split?_eq_some_iff {message words : List Char} {position : Position} :
    split? message = some (words, position) ↔ EndsInPlace message words position := by
  refine ⟨endsInPlace_of_split?, fun h => ?_⟩
  obtain ⟨line, column, hl, hc, he⟩ := id h
  have hplace : (ofText? (lineMark.toList ++ line ++ columnMark.toList ++ column)).isSome := by
    have hp : EndsInPlace (lineMark.toList ++ line ++ columnMark.toList ++ column) [] position :=
      ⟨line, column, hl, hc, rfl⟩
    rw [ofText?_eq_some_iff.mpr hp]
    rfl
  have hsome := isSome_split?_append words (isSome_split?_of_ofText? hplace)
  rw [← List.append_assoc, ← List.append_assoc, ← List.append_assoc, ← he] at hsome
  obtain ⟨⟨words', position'⟩, hs⟩ := Option.isSome_iff_exists.mp hsome
  obtain ⟨rfl, rfl⟩ := (endsInPlace_of_split? hs).unique h
  exact hs

end Position

/-! ## Refusals in words -/

theorem Error.message_refusal_of_plain {words : String} (place : Position)
    (h : ∀ cut position, ¬ EndsInPlace words.toList cut position) :
    (Error.refusal words (some place)).message = words ++ place.text := by
  have hs : Position.split? words.toList = none := by
    rw [Option.eq_none_iff_forall_not_mem]
    exact fun (cut, position) hcut => h cut position (Position.split?_eq_some_iff.mp hcut)
  rw [Error.refusal, hs]
  rfl

/-- A place at the end of the words wins over another one, unless its line is zero. -/
theorem Error.message_refusal_of_endsInPlace {words : String} {cut : List Char}
    {position : Position} (place : Position) (h : EndsInPlace words.toList cut position) :
    (Error.refusal words (some place)).message =
      String.ofList cut ++ (if position.line = 0 then place else position).text := by
  rw [Error.refusal, Position.split?_eq_some_iff.mpr h]
  by_cases hz : position.line = 0
  · simp only [if_pos hz]
    rfl
  · simp only [if_neg hz]
    rfl

end TemplateTree.Json
