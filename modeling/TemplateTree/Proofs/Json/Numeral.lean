import Mathlib.Data.List.TakeWhile
import TemplateTree.Proofs.Json.Reading
import TemplateTree.Proofs.Number.Numeral

/-! # Numerals in JSON

A number is read from a numeral. It stays exact when it is an integer of 64 bits. -/

namespace TemplateTree.Json

namespace Reader

/-! ## Digits that fit -/

theorem absorb_of_lt {limit : Nat} {digits : List Char} {n : Nat}
    (h : Nat.ofDigitChars 10 digits n < limit) :
    absorb limit n digits = (Nat.ofDigitChars 10 digits n, []) := by
  induction digits generalizing n with
  | nil => rfl
  | cons d rest ih =>
      rw [Nat.ofDigitChars_cons, Nat.mul_comm] at h ⊢
      have hfits : n * 10 + digitValue d < limit := Nat.lt_of_le_of_lt (le_ofDigitChars rest _) h
      rw [absorb]
      exact (if_pos hfits).trans (ih h)

theorem absorb_of_le {limit : Nat} {digits : List Char} {n : Nat} (hn : n < limit)
    (h : limit ≤ Nat.ofDigitChars 10 digits n) :
    ∃ m d left, absorb limit n digits = (m, d :: left) := by
  induction digits generalizing n with
  | nil =>
      rw [Nat.ofDigitChars_nil] at h
      omega
  | cons d rest ih =>
      rw [Nat.ofDigitChars_cons, Nat.mul_comm] at h
      rw [absorb]
      by_cases hfits : n * 10 + digitValue d < limit
      · rw [if_pos hfits]
        exact ih hfits h
      · rw [if_neg hfits]
        exact ⟨n, d, rest, rfl⟩

/-! ## Parts of a number -/

variable {cs rest : List Char}

theorem float_ok {negative : Bool} {s : Significand} {n : Number}
    (h : float negative s cs = .ok (n, rest)) : (∃ x, n = .float x) ∧ rest = cs := by
  unfold float at h
  cases hm : (Magnitude.ofNat? s.digits).bind (·.scaleTen? s.exponent) with
  | none =>
      rw [hm] at h
      cases h
  | some magnitude =>
      rw [hm] at h
      cases h
      exact ⟨⟨_, rfl⟩, rfl⟩

/-- Digits are read as far as they go. -/
theorem digits_ok {ds : List Char} (h : digits cs = .ok (ds, rest)) :
    cs = ds ++ rest ∧ ∀ d ∈ ds, d.isDigit := by
  cases h
  exact ⟨List.takeWhile_append_dropWhile.symm, fun _ => List.mem_takeWhile_imp⟩

theorem fraction_ok {s t : Significand} (h : fraction s cs = .ok (t, rest)) :
    ∃ ds, IsDigits ds ∧ cs = ds ++ rest := by
  obtain ⟨ds, middle, hread, h⟩ := exists_of_bind h
  obtain ⟨hcs, hdigit⟩ := digits_ok hread
  cases ds with
  | nil =>
      obtain ⟨following, middle, hpeek, h⟩ := exists_of_bind h
      cases following <;> cases h
  | cons d ds =>
      cases h
      exact ⟨d :: ds, ⟨List.cons_ne_nil d ds, hdigit⟩, hcs⟩

theorem sign_ok {α : Type} {next : Reader α} {a : α}
    (h : (if cs.head? = some '+' ∨ cs.head? = some '-' then (do advance; next) else next) cs =
      .ok (a, rest)) :
    ∃ sign middle, IsSign sign ∧ cs = sign ++ middle ∧ next middle = .ok (a, rest) := by
  by_cases hsign : cs.head? = some '+' ∨ cs.head? = some '-'
  · rw [if_pos hsign] at h
    rcases hsign with hplus | hminus
    · obtain ⟨after, rfl⟩ := List.head?_eq_some_iff.mp hplus
      exact ⟨['+'], after, .plus, rfl, h⟩
    · obtain ⟨after, rfl⟩ := List.head?_eq_some_iff.mp hminus
      exact ⟨['-'], after, .minus, rfl, h⟩
  · rw [if_neg hsign] at h
    exact ⟨[], cs, .none, rfl, h⟩

theorem exponent_ok {negative : Bool} {s : Significand} {n : Number}
    (h : exponent negative s cs = .ok (n, rest)) :
    (∃ x, n = .float x) ∧
      ∃ sign ds, IsSign sign ∧ IsDigits ds ∧ cs = sign ++ ds ++ rest := by
  obtain ⟨_, _, hpeek, h⟩ := exists_of_bind h
  cases hpeek
  obtain ⟨sign, middle, hsign, rfl, h⟩ := sign_ok h
  obtain ⟨ds, after, hread, h⟩ := exists_of_bind h
  obtain ⟨rfl, hdigit⟩ := digits_ok hread
  cases ds with
  | nil =>
      obtain ⟨following, _, hpeek, h⟩ := exists_of_bind h
      cases following <;> cases h
  | cons d ds =>
      have hds : IsDigits (d :: ds) := ⟨List.cons_ne_nil d ds, hdigit⟩
      suffices hend : (∃ x, n = .float x) ∧ rest = after by
        obtain ⟨hfloat, rfl⟩ := hend
        exact ⟨hfloat, sign, d :: ds, hsign, hds, (List.append_assoc ..).symm⟩
      dsimp only at h
      split_ifs at h
      · exact float_ok h
      · exact float_ok h
      · cases h
        exact ⟨⟨_, rfl⟩, rfl⟩
      · cases h

/-! ## Numbers in steps -/

/-- A number with nothing but its digits. -/
def plain (negative : Bool) (ds : List Char) : Reader Number :=
  let (n, left) := absorb significandLimit 0 ds
  if left.isEmpty ∧ Number.exactInteger (signed negative n) ∧ ¬ (negative ∧ n = 0) then
    return .integer (signed negative n)
  else float negative ⟨n, left.length⟩

/-- A number with its fraction, and maybe an exponent. -/
def scaled (negative : Bool) (s : Significand) : Reader Number := do
  match ← peek with
  | some 'e' | some 'E' => do advance; exponent negative s
  | _ => float negative s

/-- A number behind the digits in front. -/
def behind (negative : Bool) (ds : List Char) : Reader Number := do
  if ds.isEmpty then
    if (← peek).isNone then failAfter .endOfValue else failAt .invalidNumber
  let (n, left) := absorb significandLimit 0 ds
  match ← peek with
  | some '.' => do
    advance
    let s ← fraction ⟨n, left.length⟩
    scaled negative s
  | some 'e' | some 'E' => do advance; exponent negative ⟨n, left.length⟩
  | _ => plain negative ds

/-- The digits in front come first. -/
theorem exists_of_number {negative : Bool} {n : Number}
    (h : number negative cs = .ok (n, rest)) :
    ∃ ds middle, cs = ds ++ middle ∧ (ds ≠ [] → IsWhole ds) ∧
      behind negative ds middle = .ok (n, rest) := by
  obtain ⟨_, _, hget, h⟩ := exists_of_bind h
  cases hget
  dsimp only at h
  split at h
  · next after _ =>
      by_cases hdigit : after.head?.any Char.isDigit
      · rw [if_pos hdigit] at h
        cases h
      · rw [if_neg hdigit] at h
        exact ⟨['0'], after, rfl, fun _ => ⟨⟨by simp, by simp⟩, fun _ => rfl⟩, h⟩
  · next hfirst =>
      obtain ⟨ds, middle, hread, hbehind⟩ := exists_of_bind h
      obtain ⟨rfl, hdigit⟩ := digits_ok hread
      refine ⟨ds, middle, rfl, fun hne => ⟨⟨hne, hdigit⟩, fun hhead => ?_⟩, hbehind⟩
      obtain ⟨tail, rfl⟩ := List.head?_eq_some_iff.mp hhead
      exact (hfirst _ rfl).elim

theorem marked_ok {negative : Bool} {s : Significand} {n : Number} {mark : Char}
    (hmark : IsMark mark) (hfirst : cs.head? = some mark)
    (h : (do advance; exponent negative s) cs = .ok (n, rest)) :
    (∃ x, n = .float x) ∧ ∃ part, IsExponent (mark :: part) ∧ cs = mark :: part ++ rest := by
  obtain ⟨after, rfl⟩ := List.head?_eq_some_iff.mp hfirst
  have hexponent : exponent negative s after = .ok (n, rest) := h
  obtain ⟨hfloat, sign, ds, hsign, hds, rfl⟩ := exponent_ok hexponent
  exact ⟨hfloat, sign ++ ds, .marked hmark hsign hds, rfl⟩

theorem scaled_ok {negative : Bool} {s : Significand} {n : Number}
    (h : scaled negative s cs = .ok (n, rest)) :
    (∃ x, n = .float x) ∧ ∃ part, IsExponent part ∧ cs = part ++ rest := by
  obtain ⟨_, _, hpeek, h⟩ := exists_of_bind h
  cases hpeek
  generalize hfirst : cs.head? = first at h
  split at h
  · obtain ⟨hfloat, part, hpart, hcs⟩ := marked_ok .small hfirst h
    exact ⟨hfloat, _, hpart, hcs⟩
  · obtain ⟨hfloat, part, hpart, hcs⟩ := marked_ok .large hfirst h
    exact ⟨hfloat, _, hpart, hcs⟩
  · obtain ⟨hfloat, rfl⟩ := float_ok h
    exact ⟨hfloat, [], .none, rfl⟩

theorem plain_ok {numeral : Numeral} {n : Number} (hinteger : numeral.isInteger)
    (h : plain numeral.negative numeral.whole cs = .ok (n, rest)) :
    numeral.IsReadAs n ∧ rest = cs := by
  unfold plain at h
  by_cases hfits : numeral.magnitude < significandLimit
  · rw [absorb_of_lt hfits] at h
    dsimp only at h
    split at h
    · next hexact =>
        cases h
        exact ⟨⟨⟨hinteger, hexact.2⟩, rfl⟩, rfl⟩
    · next hexact =>
        obtain ⟨⟨x, rfl⟩, rfl⟩ := float_ok h
        exact ⟨fun h => hexact ⟨rfl, h.2⟩, rfl⟩
  · have hlimit : 0 < significandLimit := by decide
    obtain ⟨m, d, left, habsorb⟩ := absorb_of_le hlimit (Nat.le_of_not_lt hfits)
    rw [habsorb] at h
    dsimp only at h
    rw [if_neg (fun h => Bool.false_ne_true h.1)] at h
    obtain ⟨⟨x, rfl⟩, rfl⟩ := float_ok h
    exact ⟨fun h => hfits (lt_of_exactInteger h.2.1), rfl⟩

theorem behind_ok {negative : Bool} {ds : List Char} {n : Number} (hwhole : ds ≠ [] → IsWhole ds)
    (h : behind negative ds cs = .ok (n, rest)) :
    ∃ numeral : Numeral, numeral.negative = negative ∧ numeral.IsReadAs n ∧
      ds ++ cs = numeral.unsigned ++ rest := by
  by_cases hds : ds = []
  · rw [hds] at h
    obtain ⟨following, _, hpeek, h⟩ := exists_of_bind h
    cases following <;> cases h
  · specialize hwhole hds
    unfold behind at h
    rw [if_neg (by simpa using hds)] at h
    obtain ⟨_, _, hpeek, h⟩ := exists_of_bind h
    cases hpeek
    generalize hfirst : cs.head? = first at h
    split at h
    · obtain ⟨after, rfl⟩ := List.head?_eq_some_iff.mp hfirst
      obtain ⟨_, _, hadvance, h⟩ := exists_of_bind h
      cases hadvance
      obtain ⟨s, middle, hfraction, h⟩ := exists_of_bind h
      obtain ⟨digits, hdigits, hafter⟩ := fraction_ok hfraction
      obtain ⟨hfloat, part, hpart, rfl⟩ := scaled_ok h
      refine ⟨⟨negative, ds, '.' :: digits, part, hwhole, .point hdigits, hpart⟩, rfl,
        Numeral.isReadAs_of_float hfloat Bool.false_ne_true, ?_⟩
      rw [List.tail_cons] at hafter
      simp [Numeral.unsigned, hafter]
    · obtain ⟨hfloat, part, hpart, rfl⟩ := marked_ok .small hfirst h
      exact ⟨⟨negative, ds, [], _, hwhole, .none, hpart⟩, rfl,
        Numeral.isReadAs_of_float hfloat Bool.false_ne_true, by simp [Numeral.unsigned]⟩
    · obtain ⟨hfloat, part, hpart, rfl⟩ := marked_ok .large hfirst h
      exact ⟨⟨negative, ds, [], _, hwhole, .none, hpart⟩, rfl,
        Numeral.isReadAs_of_float hfloat Bool.false_ne_true, by simp [Numeral.unsigned]⟩
    · let numeral : Numeral := ⟨negative, ds, [], [], hwhole, .none, .none⟩
      have hplain : plain numeral.negative numeral.whole cs = .ok (n, rest) := h
      obtain ⟨hread, rfl⟩ := plain_ok rfl hplain
      exact ⟨numeral, rfl, hread, by simp [numeral, Numeral.unsigned]⟩

/-- A number is read from a numeral. -/
theorem number_ok {negative : Bool} {n : Number} (h : number negative cs = .ok (n, rest)) :
    ∃ numeral : Numeral, numeral.negative = negative ∧ numeral.IsReadAs n ∧
      cs = numeral.unsigned ++ rest := by
  obtain ⟨ds, middle, rfl, hwhole, hbehind⟩ := exists_of_number h
  exact behind_ok hwhole hbehind

/-! ## Values that are numbers -/

theorem scalar_ok {first : Option Char} {n : Number} (hfirst : cs.head? = first)
    (h : scalar first cs = .ok (.number n, rest)) :
    ∃ numeral : Numeral, numeral.IsReadAs n ∧ cs = numeral.chars ++ rest := by
  unfold scalar at h
  split at h
  case h_1 => cases h
  case h_2 | h_3 | h_4 | h_5 =>
    obtain ⟨_, _, _, h⟩ := exists_of_bind h
    obtain ⟨_, _, _, h⟩ := exists_of_bind h
    cases h
  case h_6 =>
    obtain ⟨after, rfl⟩ := List.head?_eq_some_iff.mp hfirst
    obtain ⟨_, _, hadvance, h⟩ := exists_of_bind h
    cases hadvance
    obtain ⟨m, _, hnumber, h⟩ := exists_of_bind h
    cases h
    obtain ⟨numeral, hnegative, hread, hafter⟩ := number_ok hnumber
    refine ⟨numeral, hread, ?_⟩
    rw [List.tail_cons] at hafter
    rw [Numeral.chars, hnegative, hafter]
    rfl
  case h_7 =>
    split at h
    · obtain ⟨m, _, hnumber, h⟩ := exists_of_bind h
      cases h
      obtain ⟨numeral, hnegative, hread, hcs⟩ := number_ok hnumber
      refine ⟨numeral, hread, ?_⟩
      rw [Numeral.chars, hnegative, hcs]
      rfl
    · cases h

theorem value_ok {depth : Nat} {n : Number} (h : value depth cs = .ok (.number n, rest)) :
    ∃ numeral : Numeral, numeral.IsReadAs n ∧ cs.dropWhile isBlank = numeral.chars ++ rest := by
  rw [value_eq] at h
  obtain ⟨_, _, hskip, h⟩ := exists_of_bind h
  cases hskip
  obtain ⟨_, _, hpeek, h⟩ := exists_of_bind h
  cases hpeek
  generalize hfirst : (cs.dropWhile isBlank).head? = first at h
  split at h
  case h_1 | h_2 =>
    cases depth with
    | zero => cases h
    | succ depth =>
        obtain ⟨_, _, _, h⟩ := exists_of_bind h
        obtain ⟨_, _, _, h⟩ := exists_of_bind h
        cases h
  case h_3 => exact scalar_ok hfirst h

theorem finish_ok (h : finish cs = .ok ((), rest)) : ∀ c ∈ cs, isBlank c := by
  obtain ⟨_, _, hskip, h⟩ := exists_of_bind h
  cases hskip
  obtain ⟨_, _, hpeek, h⟩ := exists_of_bind h
  cases hpeek
  split at h
  · cases h
  · next hend =>
      simpa using hend

end Reader

/-- A text without blanks that is read as a number is a numeral, and all of it is read. -/
theorem parse_number {text : String} {n : Number} (h : parse text = .ok (.number n))
    (hblank : ∀ c ∈ text.toList, Reader.isBlank c = false) :
    ∃ numeral : Numeral, numeral.IsReadAs n ∧ text.toList = numeral.chars ∧
      Reader.value nestingLimit text.toList = .ok (.number n, []) := by
  obtain ⟨rest, last, hvalue, hfinish⟩ := Reader.runOn_finish_eq_ok_iff.mp h
  obtain ⟨numeral, hread, htext⟩ := Reader.value_ok hvalue
  have hstart : text.toList.dropWhile Reader.isBlank = text.toList := by
    cases hcs : text.toList with
    | nil => rfl
    | cons c cs =>
        rw [hcs] at hblank
        rw [List.dropWhile_cons_of_neg (by rw [hblank c List.mem_cons_self]; decide)]
  rw [hstart] at htext
  have hend : rest = [] := List.eq_nil_iff_forall_not_mem.mpr fun c hc => by
    have hmem : c ∈ text.toList := htext ▸ List.mem_append_right numeral.chars hc
    exact Bool.false_ne_true ((hblank c hmem).symm.trans (Reader.finish_ok hfinish c hc))
  rw [hend, List.append_nil] at htext
  exact ⟨numeral, hread, htext, hend ▸ hvalue⟩

end TemplateTree.Json
