import Mathlib.Data.List.Basic
import TemplateTree.Number.Basic

/-! # Numerals

Numbers as they are written: maybe a sign, digits without zeros in front, and maybe a fraction
and an exponent. -/

namespace TemplateTree

/-! ## Digits -/

theorem bounds_of_isDigit {c : Char} (h : c.isDigit) : 48 ≤ c.toNat ∧ c.toNat ≤ 57 := by
  simp only [Char.isDigit, Bool.and_eq_true, decide_eq_true_eq, ge_iff_le,
    UInt32.le_iff_toNat_le] at h
  exact h

theorem ne_of_isDigit {d c : Char} (h : d.isDigit) (hc : c.isDigit = false) : d ≠ c := by
  rintro rfl
  exact Bool.false_ne_true (hc.symm.trans h)

theorem lt_ten_of_isDigit {c : Char} (h : c.isDigit) : c.toNat - '0'.toNat < 10 := by
  have hbounds := bounds_of_isDigit h
  have hzero : '0'.toNat = 48 := rfl
  omega

theorem digitChar_of_isDigit {c : Char} (h : c.isDigit) : (c.toNat - '0'.toNat).digitChar = c := by
  have hbounds := bounds_of_isDigit h
  have hzero : '0'.toNat = 48 := rfl
  refine Char.toNat_inj.mp ?_
  rw [Nat.toNat_digitChar_of_lt_ten (lt_ten_of_isDigit h)]
  omega

/-- The digits of a number come back behind those of a first part of it. -/
theorem toDigits_append {digits : List Char} (h : ∀ d ∈ digits, d.isDigit) {n : Nat} (hn : 0 < n) :
    Nat.toDigits 10 n ++ digits = Nat.toDigits 10 (Nat.ofDigitChars 10 digits n) := by
  induction digits generalizing n with
  | nil => rw [List.append_nil, Nat.ofDigitChars_nil]
  | cons d rest ih =>
      rw [List.forall_mem_cons] at h
      have hlt := lt_ten_of_isDigit h.1
      have hd : Nat.toDigits 10 (d.toNat - '0'.toNat) = [d] := by
        rw [Nat.toDigits_of_lt_base hlt, digitChar_of_isDigit h.1]
      rw [Nat.ofDigitChars_cons, ← ih h.2 (by omega),
        ← Nat.toDigits_append_toDigits (by decide) hn hlt, hd, List.append_assoc,
        List.singleton_append]

/-- At least one digit. -/
structure IsDigits (digits : List Char) : Prop where
  ne_nil : digits ≠ []
  digit : ∀ d ∈ digits, d.isDigit

theorem IsDigits.exists_cons {digits : List Char} (h : IsDigits digits) :
    ∃ d rest, digits = d :: rest ∧ d.isDigit ∧ ∀ c ∈ rest, c.isDigit := by
  obtain ⟨d, rest, rfl⟩ := List.exists_cons_of_ne_nil h.ne_nil
  exact ⟨d, rest, rfl, List.forall_mem_cons.mp h.digit⟩

/-- Digits as a number has them: no zero stands in front of others. -/
structure IsWhole (digits : List Char) : Prop extends IsDigits digits where
  zero : digits.head? = some '0' → digits = ['0']

theorem IsWhole.toDigits {digits : List Char} (h : IsWhole digits) :
    Nat.toDigits 10 (Nat.ofDigitChars 10 digits 0) = digits := by
  obtain ⟨d, rest, rfl, hd, hrest⟩ := h.exists_cons
  by_cases hfirst : d = '0'
  · rw [h.zero (by rw [hfirst]; rfl)]
    rfl
  · have hbounds := bounds_of_isDigit hd
    have hne : d.toNat ≠ 48 := fun hn => hfirst (Char.toNat_inj.mp hn)
    have hzero : '0'.toNat = 48 := rfl
    have hfirst : Nat.toDigits 10 (d.toNat - '0'.toNat) = [d] := by
      rw [Nat.toDigits_of_lt_base (lt_ten_of_isDigit hd), digitChar_of_isDigit hd]
    rw [Nat.ofDigitChars_cons, Nat.mul_zero, Nat.zero_add, ← toDigits_append hrest (by omega),
      hfirst, List.singleton_append]

theorem le_ofDigitChars (digits : List Char) (n : Nat) : n ≤ Nat.ofDigitChars 10 digits n := by
  induction digits generalizing n with
  | nil => exact Nat.le_refl n
  | cons d rest ih =>
      rw [Nat.ofDigitChars_cons]
      exact Nat.le_trans (by omega) (ih _)

/-! ## Ends -/

/-- Characters that separate and close values. -/
def numberEnds : List Char :=
  [',', ']', '\x7d', ' ', '\n', '\t', '\r']

/-- What may follow a number: nothing, or such a character. -/
def EndsNumber (rest : List Char) : Prop :=
  ∀ c ∈ rest.head?, c ∈ numberEnds

theorem endsNumber_nil : EndsNumber [] :=
  nofun

theorem endsNumber_brace (rest : List Char) : EndsNumber ('\x7d' :: rest) := by
  simp [EndsNumber, numberEnds]

section

variable {rest : List Char}

theorem EndsNumber.any_head? (h : EndsNumber rest) {p : Char → Bool}
    (hp : numberEnds.any p = false) : rest.head?.any p = false := by
  cases rest with
  | nil => rfl
  | cons c rest => exact eq_false_of_ne_true (List.any_eq_false.mp hp c (h c rfl))

theorem EndsNumber.any_isDigit (h : EndsNumber rest) : rest.head?.any Char.isDigit = false :=
  h.any_head? (by decide)

theorem EndsNumber.head?_ne (h : EndsNumber rest) {c : Char} (hc : c ∉ numberEnds) :
    rest.head? ≠ some c :=
  fun hhead => hc (h c hhead)

end

/-! ## Numerals -/

def signed (negative : Bool) (n : Nat) : Int :=
  if negative then -n else n

theorem toList_toString_signed {negative : Bool} {n : Nat} (h : ¬ (negative ∧ n = 0)) :
    (toString (signed negative n)).toList =
      (if negative then ['-'] else []) ++ Nat.toDigits 10 n := by
  cases negative with
  | false =>
      show (toString n).toList = _
      rw [Nat.toString_eq_ofList_toDigits, String.toList_ofList]
      rfl
  | true =>
      cases n with
      | zero => exact absurd ⟨rfl, rfl⟩ h
      | succ n =>
          show ("-" ++ toString (n + 1)).toList = _
          rw [Nat.toString_eq_ofList_toDigits, String.toList_append, String.toList_ofList,
            String.toList_ofList]
          rfl

theorem exists_signed (value : Int) :
    ∃ negative n, value = signed negative n ∧ ¬ (negative ∧ n = 0) := by
  cases value with
  | ofNat n => exact ⟨false, n, rfl, fun h => Bool.false_ne_true h.1⟩
  | negSucc n => exact ⟨true, n + 1, rfl, fun h => Nat.succ_ne_zero n h.2⟩

theorem eq_of_signs {first second : Bool} {digits others : List Char}
    (hdigits : digits.head? ≠ some '-') (hothers : others.head? ≠ some '-')
    (h : (if first then ['-'] else []) ++ digits = (if second then ['-'] else []) ++ others) :
    first = second ∧ digits = others := by
  cases first <;> cases second
  · exact ⟨rfl, h⟩
  · exact absurd (congrArg List.head? h) hdigits
  · exact absurd (congrArg List.head? h.symm) hothers
  · exact ⟨rfl, List.tail_eq_of_cons_eq h⟩

theorem lt_of_exactInteger {negative : Bool} {n : Nat}
    (h : Number.exactInteger (signed negative n)) : n < twoTo 64 := by
  have hhalf : twoTo 63 < twoTo 64 := by decide
  cases negative <;> simp [Number.exactInteger, signed] at h <;> omega

/-- Nothing, or a point and digits. -/
inductive IsFraction : List Char → Prop
  | none : IsFraction []
  | point {digits} : IsDigits digits → IsFraction ('.' :: digits)

inductive IsMark : Char → Prop
  | small : IsMark 'e'
  | large : IsMark 'E'

inductive IsSign : List Char → Prop
  | none : IsSign []
  | plus : IsSign ['+']
  | minus : IsSign ['-']

/-- Nothing, or a mark and digits, maybe with a sign. -/
inductive IsExponent : List Char → Prop
  | none : IsExponent []
  | marked {mark sign digits} :
      IsMark mark → IsSign sign → IsDigits digits → IsExponent (mark :: (sign ++ digits))

theorem IsFraction.isDigit_or_mem {cs : List Char} (h : IsFraction cs) {c : Char} (hc : c ∈ cs) :
    c.isDigit ∨ c ∈ ['.'] := by
  cases h with
  | none => cases hc
  | point hdigits =>
      rw [List.mem_cons] at hc
      rcases hc with rfl | hc
      · exact .inr List.mem_cons_self
      · exact .inl (hdigits.digit c hc)

theorem IsExponent.isDigit_or_mem {cs : List Char} (h : IsExponent cs) {c : Char} (hc : c ∈ cs) :
    c.isDigit ∨ c ∈ ['e', 'E', '+', '-'] := by
  cases h with
  | none => cases hc
  | marked hmark hsign hdigits =>
      rw [List.mem_cons, List.mem_append] at hc
      rcases hc with rfl | hc | hc
      · cases hmark <;> simp
      · cases hsign <;> simp_all
      · exact .inl (hdigits.digit c hc)

/-- The parts of a written number. -/
structure Numeral where
  negative : Bool
  whole : List Char
  /-- With the point. -/
  fraction : List Char
  /-- With the mark. -/
  exponent : List Char
  isWhole : IsWhole whole
  isFraction : IsFraction fraction
  isExponent : IsExponent exponent

namespace Numeral

section

variable (numeral : Numeral)

def unsigned : List Char :=
  numeral.whole ++ numeral.fraction ++ numeral.exponent

def chars : List Char :=
  (if numeral.negative then ['-'] else []) ++ numeral.unsigned

/-- The number in front, without its sign. -/
def magnitude : Nat :=
  Nat.ofDigitChars 10 numeral.whole 0

def value : Int :=
  signed numeral.negative numeral.magnitude

def isInteger : Bool :=
  numeral.fraction.isEmpty && numeral.exponent.isEmpty

/-- Whether a number stays exact when it is read. Minus zero is no integer. -/
def IsExact : Prop :=
  numeral.isInteger ∧ Number.exactInteger numeral.value ∧
    ¬ (numeral.negative ∧ numeral.magnitude = 0)

/-- An exact number is read as it is; every other one is read as a float. -/
def IsReadAs : Number → Prop
  | .integer value => numeral.IsExact ∧ value = numeral.value
  | .float _ => ¬ numeral.IsExact

theorem isDigit_or_mem {c : Char} (hc : c ∈ numeral.unsigned) :
    c.isDigit ∨ c ∈ ['.', 'e', 'E', '+', '-'] := by
  rw [unsigned, List.mem_append, List.mem_append] at hc
  rcases hc with (hc | hc) | hc
  · exact .inl (numeral.isWhole.digit c hc)
  · exact (numeral.isFraction.isDigit_or_mem hc).imp_right fun h =>
      List.mem_append_left ['e', 'E', '+', '-'] h
  · exact (numeral.isExponent.isDigit_or_mem hc).imp_right fun h => List.mem_cons_of_mem '.' h

theorem exists_first : ∃ d rest, numeral.unsigned = d :: rest ∧ d.isDigit := by
  obtain ⟨d, rest, hwhole, hd, -⟩ := numeral.isWhole.exists_cons
  exact ⟨d, rest ++ numeral.fraction ++ numeral.exponent, by rw [unsigned, hwhole]; rfl, hd⟩

theorem exists_first_chars :
    ∃ c rest, numeral.chars = c :: rest ∧ (c = '-' ∨ c.isDigit) := by
  obtain ⟨d, rest, hfirst, hdigit⟩ := numeral.exists_first
  unfold chars
  cases numeral.negative with
  | false => exact ⟨d, rest, hfirst, .inr hdigit⟩
  | true => exact ⟨'-', numeral.unsigned, rfl, .inl rfl⟩

theorem head?_unsigned {c : Char} (hc : c.isDigit = false) : numeral.unsigned.head? ≠ some c := by
  obtain ⟨d, rest, hfirst, hdigit⟩ := numeral.exists_first
  rw [hfirst, List.head?_cons, Ne, Option.some_inj]
  exact ne_of_isDigit hdigit hc

theorem head?_chars {c : Char} (hc : c.isDigit = false) (hminus : c ≠ '-') :
    numeral.chars.head? ≠ some c := by
  unfold chars
  cases numeral.negative with
  | false => exact numeral.head?_unsigned hc
  | true => exact fun h => hminus (Option.some.inj h).symm

theorem mem_chars_iff {c : Char} (hminus : c ≠ '-') :
    c ∈ numeral.chars ↔ c ∈ numeral.unsigned := by
  unfold chars
  cases numeral.negative with
  | false => rfl
  | true => simp [hminus]

end

variable {numeral : Numeral}

theorem unsigned_of_isInteger (h : numeral.isInteger) : numeral.unsigned = numeral.whole := by
  rw [isInteger, Bool.and_eq_true, List.isEmpty_iff, List.isEmpty_iff] at h
  rw [unsigned, h.1, h.2, List.append_nil, List.append_nil]

theorem toString_magnitude (h : numeral.isInteger) :
    toString numeral.magnitude = String.ofList numeral.unsigned := by
  rw [Nat.toString_eq_ofList_toDigits, magnitude, numeral.isWhole.toDigits,
    unsigned_of_isInteger h]

/-- Only a fraction and an exponent have marks. -/
theorem isInteger_iff : numeral.isInteger ↔ ∀ c ∈ ['.', 'e', 'E'], c ∉ numeral.unsigned := by
  have hmarks : ∀ c ∈ ['.', 'e', 'E'], c.isDigit = false := by simp
  constructor
  · intro h c hc hmem
    rw [unsigned_of_isInteger h] at hmem
    exact ne_of_isDigit (numeral.isWhole.digit c hmem) (hmarks c hc) rfl
  · intro h
    obtain ⟨negative, whole, fraction, exponent, hwhole, hfraction, hexponent⟩ := numeral
    cases hfraction with
    | point hdigits => exact absurd (by simp [unsigned]) (h '.' (by simp))
    | none =>
        cases hexponent with
        | none => rfl
        | @marked mark sign digits hmark hsign hdigits =>
            have hmem : mark ∈ ['.', 'e', 'E'] := by cases hmark <;> simp
            exact absurd (by simp [unsigned]) (h mark hmem)

theorem IsExact.chars_eq (h : numeral.IsExact) :
    numeral.chars = (toString numeral.value).toList := by
  obtain ⟨hinteger, -, hzero⟩ := h
  rw [value, toList_toString_signed hzero, chars, unsigned_of_isInteger hinteger, magnitude,
    numeral.isWhole.toDigits]

theorem isExact_iff :
    numeral.IsExact ↔
      ∃ value, Number.exactInteger value ∧ numeral.chars = (toString value).toList := by
  constructor
  · intro h
    exact ⟨numeral.value, h.2.1, h.chars_eq⟩
  · rintro ⟨value, hvalue, hchars⟩
    obtain ⟨negative, n, rfl, hzero⟩ := exists_signed value
    rw [toList_toString_signed hzero, chars] at hchars
    have hdigit {c : Char} (hc : c ∈ Nat.toDigits 10 n) : c.isDigit :=
      Nat.isDigit_of_mem_toDigits (by decide) (by decide) hc
    have hhead : (Nat.toDigits 10 n).head? ≠ some '-' := fun hminus =>
      Bool.false_ne_true (hdigit (List.mem_of_head? hminus))
    obtain ⟨hsign, hdigits⟩ := eq_of_signs (numeral.head?_unsigned rfl) hhead hchars
    have hmarks : ∀ c ∈ ['.', 'e', 'E'], c.isDigit = false := by simp
    have hinteger : numeral.isInteger := isInteger_iff.mpr fun c hc hmem =>
      ne_of_isDigit (hdigit (hdigits ▸ hmem)) (hmarks c hc) rfl
    have hmagnitude : numeral.magnitude = n := by
      rw [magnitude, ← unsigned_of_isInteger hinteger, hdigits, Nat.ofDigitChars_ten_toDigits]
    refine ⟨hinteger, ?_, ?_⟩
    · rw [value, hsign, hmagnitude]
      exact hvalue
    · rw [hsign, hmagnitude]
      exact hzero

theorem isReadAs_of_float {n : Number} (hfloat : ∃ x, n = .float x) (h : ¬ numeral.isInteger) :
    numeral.IsReadAs n := by
  obtain ⟨x, rfl⟩ := hfloat
  exact fun hexact => h hexact.1

end Numeral

end TemplateTree
