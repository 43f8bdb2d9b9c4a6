import TemplateTree.Literal.Code
import TemplateTree.Proofs.Number.Numeral
import TemplateTree.Proofs.Text.Words

/-! # Numerals in source text

A numeral is one constant, and a minus sign before it is a mark of its own. The digits of the
constant are the numeral itself, but for the mark of the exponent and its plus sign. -/

namespace TemplateTree.Literal

open Text

/-! ## Characters of a numeral -/

section

variable {d : Char}

theorem startsIdentifier_of_isDigit (h : d.isDigit) : startsIdentifier d = false := by
  have hbounds := bounds_of_isDigit h
  have hrange : inRanges startBounds d.toNat = false := by
    rw [inRanges, startBounds, List.takeWhile_cons_of_neg (by simpa using by omega)]
    rfl
  rw [startsIdentifier, hrange, Bool.or_false, beq_eq_false_iff_ne]
  exact ne_of_isDigit h (by decide)

theorem isMark_of_isDigit (h : d.isDigit) : Lexeme.isMark d = false := by
  have hmarks : ∀ c ∈ "~!@#$%^&*-=+|;:,<.>/?'".toList, c.isDigit = false := by simp
  rw [Lexeme.isMark, List.contains_eq_mem, decide_eq_false_iff_not]
  intro hmem
  rw [hmarks d hmem] at h
  cases h

theorem isBlank_of_isDigit (h : d.isDigit) : Lexeme.isBlank d = false := by
  have hbounds := bounds_of_isDigit h
  have hblank : Text.isBlank d = false := isBlank_of_visible (by omega) (by omega)
  rw [Lexeme.isBlank, hblank, Bool.false_or, Bool.or_eq_false_iff, beq_eq_false_iff_ne,
    beq_eq_false_iff_ne]
  exact ⟨ne_of_isDigit h (by decide), ne_of_isDigit h (by decide)⟩

theorem quotedFront_of_isDigit (h : d.isDigit) (cs : List Char) : quotedFront (d :: cs) = none := by
  unfold quotedFront
  dsimp only
  split
  case h_9 => rfl
  all_goals
    next heq =>
      cases heq
      cases h

end

/-! ## Where a numeral ends -/

theorem isExponentMark_of_endsNumber {rest : List Char} (h : EndsNumber rest) :
    rest.head?.any isExponentMark = false :=
  h.any_head? (by decide)

theorem startsIdentifier_of_endsNumber {rest : List Char} (h : EndsNumber rest) :
    rest.head?.any startsIdentifier = false :=
  h.any_head? (by decide +kernel)

theorem continuesIdentifier_of_endsNumber {rest : List Char} (h : EndsNumber rest) :
    rest.head?.any continuesIdentifier = false :=
  h.any_head? (by decide +kernel)

section

variable {digits rest : List Char}

theorem afterExponent_end (h : EndsNumber rest) (signed : Bool) :
    afterExponent signed true rest = some rest := by
  cases rest with
  | nil => rfl
  | cons c rest =>
      have hdigit : c.isDigit = false := h.any_isDigit
      have hgap : c ≠ '_' := fun heq => h.head?_ne (by decide) (congrArg some heq)
      rw [afterExponent, if_neg (by rw [hdigit]; decide), if_neg hgap, if_pos rfl]

theorem afterExponent_of_valued (h : ∀ d ∈ digits, d.isDigit) (signed : Bool)
    (hrest : EndsNumber rest) : afterExponent signed true (digits ++ rest) = some rest := by
  induction digits with
  | nil => exact afterExponent_end hrest signed
  | cons d digits ih =>
      rw [List.forall_mem_cons] at h
      rw [List.cons_append, afterExponent, if_pos h.1]
      exact ih h.2

theorem afterExponent_of_isDigits (h : IsDigits digits) (signed : Bool) (hrest : EndsNumber rest) :
    afterExponent signed false (digits ++ rest) = some rest := by
  obtain ⟨d, digits, rfl, hd, hdigits⟩ := h.exists_cons
  rw [List.cons_append, afterExponent, if_pos hd]
  exact afterExponent_of_valued hdigits signed hrest

theorem afterExponent_of_signed {sign : List Char} (hsign : IsSign sign) (h : IsDigits digits)
    (hrest : EndsNumber rest) :
    afterExponent false false (sign ++ (digits ++ rest)) = some rest := by
  cases hsign with
  | none => exact afterExponent_of_isDigits h false hrest
  | plus => exact afterExponent_of_isDigits h true hrest
  | minus => exact afterExponent_of_isDigits h true hrest

theorem digitValue?_of_isDigit {d : Char} (h : d.isDigit) :
    digitValue? d = some (d.toNat - '0'.toNat) :=
  if_pos h

theorem isSome_digitValue?_end (h : EndsNumber rest) :
    (rest.head?.any fun c => (digitValue? c).isSome) = false :=
  h.any_head? (by decide)

theorem afterDigits_end (h : EndsNumber rest) : afterDigits 10 true rest = some rest := by
  cases rest with
  | nil => rfl
  | cons c rest =>
      have hgap : c ≠ '_' := fun heq => h.head?_ne (by decide) (congrArg some heq)
      have hvalue : digitValue? c = none :=
        Option.isNone_iff_eq_none.mp (Option.isSome_eq_false_iff.mp (isSome_digitValue?_end h))
      rw [afterDigits, if_neg hgap, hvalue]
      rfl

theorem afterDigits_cons {d : Char} (h : d.isDigit) (valued : Bool) (cs : List Char) :
    afterDigits 10 valued (d :: cs) = afterDigits 10 true cs := by
  have hgap : d ≠ '_' := ne_of_isDigit h (by decide)
  rw [afterDigits, if_neg hgap, digitValue?_of_isDigit h]
  exact if_pos (lt_ten_of_isDigit h)

theorem afterDigits_of_valued (h : ∀ d ∈ digits, d.isDigit) (hrest : EndsNumber rest) :
    afterDigits 10 true (digits ++ rest) = some rest := by
  induction digits with
  | nil => exact afterDigits_end hrest
  | cons d digits ih =>
      rw [List.forall_mem_cons] at h
      rw [List.cons_append, afterDigits_cons h.1]
      exact ih h.2

theorem afterDigits_of_isDigits (h : IsDigits digits) (hrest : EndsNumber rest) :
    afterDigits 10 false (digits ++ rest) = some rest := by
  obtain ⟨d, digits, rfl, hd, hdigits⟩ := h.exists_cons
  rw [List.cons_append, afterDigits_cons hd]
  exact afterDigits_of_valued hdigits hrest

theorem isExponentMark_of_isMark {mark : Char} (h : IsMark mark) :
    ¬ isDigitOrGap mark ∧ isExponentMark mark := by
  cases h <;> decide

theorem isDigitOrGap_of_isDigit {d : Char} (h : d.isDigit) : isDigitOrGap d := by
  rw [isDigitOrGap, h, Bool.true_or]

theorem any_head? {p : Char → Bool} {value : Bool} (h : IsDigits digits)
    (hp : ∀ d, d.isDigit → p d = value) (rest : List Char) :
    (digits ++ rest).head?.any p = value := by
  obtain ⟨d, digits, rfl, hd, -⟩ := h.exists_cons
  exact hp d hd

theorem dropWhile_digits (h : IsDigits digits) (rest : List Char) :
    (digits ++ rest).dropWhile isDigitOrGap = rest.dropWhile isDigitOrGap :=
  List.dropWhile_append_of_pos fun d hd => isDigitOrGap_of_isDigit (h.digit d hd)

theorem dropWhile_end (h : EndsNumber rest) : rest.dropWhile isDigitOrGap = rest := by
  have hstop : rest.head?.any isDigitOrGap = false := h.any_head? (by decide)
  cases rest with
  | nil => rfl
  | cons c rest =>
      have hc : isDigitOrGap c = false := hstop
      exact List.dropWhile_cons_of_neg (by rw [hc]; decide)

theorem afterFloat_of_fraction {whole exponent : List Char} (hwhole : IsDigits whole)
    (hdigits : IsDigits digits) (hexponent : IsExponent exponent) (hrest : EndsNumber rest) :
    afterFloat (whole ++ '.' :: (digits ++ (exponent ++ rest))) = some rest := by
  have hhead : (digits ++ (exponent ++ rest)).head?.any
      (fun c => c == '.' || startsIdentifier c) = false := by
    refine any_head? hdigits (fun d hd => ?_) (exponent ++ rest)
    rw [startsIdentifier_of_isDigit hd, Bool.or_false, beq_eq_false_iff_ne]
    exact ne_of_isDigit hd (by decide)
  unfold afterFloat
  rw [any_head? hwhole (fun _ => id), if_neg (by decide), dropWhile_digits hwhole,
    List.dropWhile_cons_of_neg (by decide)]
  simp only [hhead, Bool.false_eq_true, if_false]
  rw [dropWhile_digits hdigits]
  cases hexponent with
  | none =>
      rw [List.nil_append, dropWhile_end hrest]
      cases rest with
      | nil => rfl
      | cons c rest =>
          have hmark : isExponentMark c = false := isExponentMark_of_endsNumber hrest
          simp only [hmark, Bool.false_eq_true, if_false]
  | marked hmark hsign hds =>
      obtain ⟨hgap, hisMark⟩ := isExponentMark_of_isMark hmark
      rw [List.cons_append, List.append_assoc, List.dropWhile_cons_of_neg hgap]
      simp only [if_pos hisMark, afterExponent_of_signed hsign hds hrest, Option.getD_some]

theorem afterFloat_of_exponent {whole sign : List Char} {mark : Char} (hwhole : IsDigits whole)
    (hmark : IsMark mark) (hsign : IsSign sign) (hdigits : IsDigits digits)
    (hrest : EndsNumber rest) :
    afterFloat (whole ++ mark :: (sign ++ (digits ++ rest))) = some rest := by
  obtain ⟨hgap, hisMark⟩ := isExponentMark_of_isMark hmark
  unfold afterFloat
  rw [any_head? hwhole (fun _ => id), if_neg (by decide), dropWhile_digits hwhole,
    List.dropWhile_cons_of_neg hgap]
  split
  · next heq =>
      cases heq
      cases hisMark
  · next heq =>
      cases heq
      rw [if_pos hisMark, afterExponent_of_signed hsign hdigits hrest]
  · next heq => cases heq

theorem afterFloat_of_isInteger {whole : List Char} (h : IsWhole whole) (hrest : EndsNumber rest) :
    afterFloat (whole ++ rest) = none := by
  unfold afterFloat
  rw [any_head? h.toIsDigits (fun _ => id), if_neg (by decide), dropWhile_digits h.toIsDigits,
    dropWhile_end hrest]
  cases rest with
  | nil => rfl
  | cons c rest =>
      have hpoint : c ≠ '.' := fun heq => hrest.head?_ne (by decide) (congrArg some heq)
      have hmark : isExponentMark c = false := isExponentMark_of_endsNumber hrest
      split
      · next heq => exact absurd (List.cons.inj heq).1 hpoint
      · next heq =>
          cases heq
          rw [hmark]
          rfl
      · rfl

end

variable (numeral : Numeral) {rest : List Char}

/-- A base mark is neither a part of a numeral nor behind one. -/
theorem unsigned_append_ne (hrest : EndsNumber rest) {c d : Char} {cs : List Char}
    (hpart : ¬ (d.isDigit ∨ d ∈ ['.', 'e', 'E', '+', '-'])) (hend : d ∉ numberEnds) :
    numeral.unsigned ++ rest ≠ c :: d :: cs := by
  intro heq
  obtain ⟨first, tail, hfirst, -⟩ := numeral.exists_first
  rw [hfirst] at heq
  have hbehind : tail ++ rest = d :: cs := (List.cons.inj heq).2
  cases tail with
  | nil => exact hrest.head?_ne hend (congrArg List.head? hbehind)
  | cons e tail =>
      have hmem : d ∈ numeral.unsigned := by
        rw [hfirst, ← (List.cons.inj hbehind).1]
        exact List.mem_cons_of_mem first List.mem_cons_self
      exact hpart (numeral.isDigit_or_mem hmem)

theorem numberBase_unsigned (hrest : EndsNumber rest) :
    numberBase (numeral.unsigned ++ rest) = (10, numeral.unsigned ++ rest) := by
  unfold numberBase
  split
  · next heq => exact absurd heq (unsigned_append_ne numeral hrest (by decide) (by decide))
  · next heq => exact absurd heq (unsigned_append_ne numeral hrest (by decide) (by decide))
  · next heq => exact absurd heq (unsigned_append_ne numeral hrest (by decide) (by decide))
  · rfl

theorem afterNumberSuffix_end (h : EndsNumber rest) : afterNumberSuffix rest = some rest := by
  have hsuffix : afterSuffix rest = rest := by
    rw [afterSuffix, startsIdentifier_of_endsNumber h]
    rfl
  rw [afterNumberSuffix, hsuffix, continuesIdentifier_of_endsNumber h]
  rfl

theorem afterNumber_unsigned (hrest : EndsNumber rest) :
    afterNumber (numeral.unsigned ++ rest) = some rest := by
  rw [afterNumber, numberBase_unsigned numeral hrest]
  dsimp only
  obtain ⟨negative, whole, fraction, exponent, hwhole, hfraction, hexponent⟩ := numeral
  unfold Numeral.unsigned
  cases hfraction with
  | none =>
      rw [List.append_nil]
      cases hexponent with
      | none =>
          rw [List.append_nil, afterFloat_of_isInteger hwhole hrest,
            afterDigits_of_isDigits hwhole.toIsDigits hrest, Option.bind_some,
            afterNumberSuffix_end hrest]
          rfl
      | marked hmark hsign hdigits =>
          rw [List.append_assoc, List.cons_append, List.append_assoc,
            afterFloat_of_exponent hwhole.toIsDigits hmark hsign hdigits hrest, Option.bind_some,
            afterNumberSuffix_end hrest]
          rfl
  | point hdigits =>
      rw [List.append_assoc, List.append_assoc, List.cons_append,
        afterFloat_of_fraction hwhole.toIsDigits hdigits hexponent hrest, Option.bind_some,
        afterNumberSuffix_end hrest]
      rfl

/-! ## What a numeral stands for -/

/-- A numeral with a small exponent mark and without a plus sign. -/
def spelled (cs : List Char) : List Char :=
  (cs.filter (· ≠ '+')).map fun c => if c = 'E' then 'e' else c

theorem spelled_append (cs rest : List Char) : spelled (cs ++ rest) = spelled cs ++ spelled rest := by
  rw [spelled, List.filter_append, List.map_append, ← spelled, ← spelled]

theorem spelled_eq_self {cs : List Char} (h : ∀ c ∈ cs, c ≠ '+' ∧ c ≠ 'E') : spelled cs = cs := by
  induction cs with
  | nil => rfl
  | cons c rest ih =>
      rw [List.forall_mem_cons] at h
      rw [← List.singleton_append, spelled_append, ih h.2, spelled]
      simp [h.1.1, h.1.2]

theorem spelled_cons_mark {mark : Char} (h : IsMark mark) (cs : List Char) :
    spelled (mark :: cs) = 'e' :: spelled cs := by
  cases h <;> rfl

section

variable {digits rest : List Char}

theorem integerParts_cons {d : Char} (h : d.isDigit) (value : Nat) (valued : Bool)
    (cs : List Char) :
    integerParts 10 value valued (d :: cs) =
      integerParts 10 (value * 10 + (d.toNat - '0'.toNat)) true cs := by
  have hexponent : ¬ isExponentMark d := by
    rw [isExponentMark, Bool.or_eq_true, beq_iff_eq, beq_iff_eq]
    exact not_or.mpr ⟨ne_of_isDigit h (by decide), ne_of_isDigit h (by decide)⟩
  have hgap : d ≠ '_' := ne_of_isDigit h (by decide)
  have hpoint : d ≠ '.' := ne_of_isDigit h (by decide)
  rw [integerParts, if_neg hgap, if_neg (fun hten => hpoint hten.2),
    if_neg (fun hten => hexponent hten.2), digitValue?_of_isDigit h]
  exact if_pos (lt_ten_of_isDigit h)

theorem integerParts_of_valued (h : ∀ d ∈ digits, d.isDigit) (value : Nat) :
    integerParts 10 value true (digits ++ rest) =
      integerParts 10 (Nat.ofDigitChars 10 digits value) true rest := by
  induction digits generalizing value with
  | nil => rfl
  | cons d digits ih =>
      rw [List.forall_mem_cons] at h
      rw [List.cons_append, integerParts_cons h.1, ih h.2, Nat.ofDigitChars_cons, Nat.mul_comm]

theorem integerParts_of_isDigits (h : IsDigits digits) :
    integerParts 10 0 false (digits ++ rest) =
      integerParts 10 (Nat.ofDigitChars 10 digits 0) true rest := by
  obtain ⟨d, digits, rfl, hd, hrest⟩ := h.exists_cons
  rw [List.cons_append, integerParts_cons hd, integerParts_of_valued hrest,
    Nat.ofDigitChars_cons, Nat.mul_comm]

variable {state : FloatState}

theorem floatParts_cons {d : Char} (h : d.isDigit) (cs : List Char) :
    floatParts state (d :: cs) =
      (floatParts { state with value := state.value || state.mark } cs).map fun (ds, suffix) =>
        (d :: ds, suffix) := by
  have hgap : d ≠ '_' := ne_of_isDigit h (by decide)
  rw [floatParts, if_neg hgap, if_pos h]

theorem floatParts_of_valued (h : ∀ d ∈ digits, d.isDigit) (hvalue : state.value = true) :
    floatParts state digits = some (digits, []) := by
  induction digits generalizing state with
  | nil => rw [floatParts, hvalue, Bool.not_true, Bool.and_false, if_neg Bool.false_ne_true]
  | cons d digits ih =>
      rw [List.forall_mem_cons] at h
      rw [floatParts_cons h.1, ih h.2 (by rw [hvalue, Bool.true_or])]
      rfl

theorem floatParts_of_marked (h : IsDigits digits) (hmark : state.mark = true) :
    floatParts state digits = some (digits, []) := by
  obtain ⟨d, digits, rfl, hd, hrest⟩ := h.exists_cons
  rw [floatParts_cons hd, floatParts_of_valued hrest (by rw [hmark, Bool.or_true])]
  rfl

theorem floatParts_append (h : ∀ d ∈ digits, d.isDigit) (hmark : state.mark = false)
    {ds suffix : List Char} (hrest : floatParts state rest = some (ds, suffix)) :
    floatParts state (digits ++ rest) = some (digits ++ ds, suffix) := by
  induction digits with
  | nil => exact hrest
  | cons d digits ih =>
      rw [List.forall_mem_cons] at h
      have hstate : { state with value := state.value || state.mark } = state := by
        rw [hmark, Bool.or_false, ← hmark]
      rw [List.cons_append, floatParts_cons h.1, hstate, ih h.2]
      rfl

theorem spelled_digits (h : ∀ d ∈ digits, d.isDigit) : spelled digits = digits :=
  spelled_eq_self fun d hd =>
    ⟨ne_of_isDigit (h d hd) (by decide), ne_of_isDigit (h d hd) (by decide)⟩

theorem startsExponent_of_signed {sign : List Char} (hsign : IsSign sign) (h : IsDigits digits) :
    startsExponent (sign ++ digits) := by
  cases hsign with
  | none =>
      obtain ⟨d, digits, rfl, hd, -⟩ := h.exists_cons
      have hgap : d ≠ '_' := ne_of_isDigit hd (by decide)
      rw [startsExponent, List.nil_append, List.dropWhile_cons_of_neg (by simpa using hgap)]
      simp [hd]
  | plus => rfl
  | minus => rfl

theorem floatParts_of_signed {point : Bool} {sign : List Char} (hsign : IsSign sign)
    (h : IsDigits digits) :
    floatParts { point, mark := true } (sign ++ digits) = some (spelled (sign ++ digits), []) := by
  rw [spelled_append, spelled_digits h.digit]
  cases hsign with
  | none => exact floatParts_of_marked h rfl
  | plus => exact floatParts_of_marked h rfl
  | minus =>
      have hminus : floatParts { point, mark := true } ('-' :: digits) =
          (floatParts { point, mark := true, sign := true } digits).map fun (ds, suffix) =>
            ('-' :: ds, suffix) := rfl
      rw [List.singleton_append, hminus, floatParts_of_marked h rfl]
      rfl

theorem floatParts_of_isExponent {point : Bool} (h : IsExponent rest) :
    floatParts { point } rest = some (spelled rest, []) := by
  cases h with
  | none => rfl
  | @marked mark sign digits hmark hsign hdigits =>
      have hstarts := startsExponent_of_signed hsign hdigits
      have hparts : floatParts { point } (mark :: (sign ++ digits)) =
          (floatParts { point, mark := true } (sign ++ digits)).map fun (ds, suffix) =>
            ('e' :: ds, suffix) := by
        cases hmark with
        | small => exact if_neg (not_not.mpr hstarts)
        | large => exact if_neg (not_not.mpr hstarts)
      rw [hparts, floatParts_of_signed hsign hdigits, spelled_cons_mark hmark]
      rfl

end

theorem floatParts_unsigned :
    floatParts {} numeral.unsigned = some (spelled numeral.unsigned, []) := by
  obtain ⟨negative, whole, fraction, exponent, hwhole, hfraction, hexponent⟩ := numeral
  unfold Numeral.unsigned
  rw [List.append_assoc, spelled_append, spelled_digits hwhole.digit]
  refine floatParts_append hwhole.digit rfl ?_
  cases hfraction with
  | none => exact floatParts_of_isExponent hexponent
  | @point digits hdigits =>
      have hpoint : floatParts {} ('.' :: (digits ++ exponent)) =
          (floatParts { point := true } (digits ++ exponent)).map fun (ds, suffix) =>
            ('.' :: ds, suffix) := rfl
      have hspelled : spelled ('.' :: (digits ++ exponent)) =
          '.' :: (digits ++ spelled exponent) := by
        show '.' :: spelled (digits ++ exponent) = _
        rw [spelled_append, spelled_digits hdigits.digit]
      rw [List.cons_append, hpoint, hspelled,
        floatParts_append hdigits.digit rfl (floatParts_of_isExponent hexponent)]
      rfl

theorem integerParts_unsigned :
    integerParts 10 0 false numeral.unsigned =
      if numeral.isInteger then some (numeral.magnitude, []) else none := by
  obtain ⟨negative, whole, fraction, exponent, hwhole, hfraction, hexponent⟩ := numeral
  unfold Numeral.unsigned
  rw [List.append_assoc, integerParts_of_isDigits hwhole.toIsDigits]
  cases hfraction with
  | none =>
      cases hexponent with
      | none => rfl
      | marked hmark hsign hdigits =>
          have hstarts := startsExponent_of_signed hsign hdigits
          cases hmark with
          | small => exact if_pos hstarts
          | large => exact if_pos hstarts
  | point hdigits => rfl

/-- The constant of a numeral without its sign. -/
def unsignedConstant : NumberConstant where
  float := !numeral.isInteger
  digits := String.ofList (spelled numeral.unsigned)
  suffix := ""
  source := String.ofList numeral.unsigned

def numeralConstant : NumberConstant :=
  { unsignedConstant numeral with negative := numeral.negative }

theorem ofSource?_unsigned :
    NumberConstant.ofSource? numeral.unsigned = some (unsignedConstant numeral) := by
  have hbase := numberBase_unsigned numeral endsNumber_nil
  rw [List.append_nil] at hbase
  unfold NumberConstant.ofSource? unsignedConstant
  rw [hbase]
  dsimp only
  rw [integerParts_unsigned]
  by_cases hinteger : numeral.isInteger
  · have hspelled : spelled numeral.unsigned = numeral.unsigned := by
      rw [Numeral.unsigned_of_isInteger hinteger, spelled_digits numeral.isWhole.digit]
    rw [if_pos hinteger, hinteger, hspelled]
    dsimp only
    rw [Numeral.toString_magnitude hinteger]
    rfl
  · rw [if_neg hinteger, eq_false_of_ne_true hinteger, floatParts_unsigned]
    rfl

theorem numeralConstant_text :
    (numeralConstant numeral).text = String.ofList (spelled numeral.chars) := by
  unfold numeralConstant NumberConstant.text Numeral.chars
  cases numeral.negative with
  | false => rfl
  | true =>
      rw [if_pos rfl, if_pos rfl, spelled_append, String.ofList_append]
      rfl

/-! ## Reading a numeral -/

theorem sourceBefore_append (cs rest : List Char) :
    sourceBefore (cs ++ rest) rest = String.ofList cs := by
  rw [sourceBefore, List.length_append, Nat.add_sub_cancel, List.take_left]

theorem constantFront_unsigned (hrest : EndsNumber rest) :
    constantFront (numeral.unsigned ++ rest) =
      some (.number (unsignedConstant numeral), rest) := by
  obtain ⟨d, tail, hfirst, hdigit⟩ := numeral.exists_first
  have hquoted : quotedFront (numeral.unsigned ++ rest) = none := by
    rw [hfirst]
    exact quotedFront_of_isDigit hdigit (tail ++ rest)
  unfold constantFront
  rw [hquoted, afterNumber_unsigned numeral hrest]
  simp only [Option.bind_eq_bind, Option.bind_some, sourceBefore_append, String.toList_ofList,
    ofSource?_unsigned]

theorem front_of_constantFront {d : Char} (h : d.isDigit) {cs rest : List Char} {value : Constant}
    (hconstant : constantFront (d :: cs) = some (value, rest)) :
    Lexeme.front (d :: cs) = some ([.tree (.constant value)], rest) := by
  unfold Lexeme.front
  split
  case h_9 => rw [hconstant]
  all_goals
    next heq =>
      cases heq
      cases h

theorem startsMark_of_isDigit {d : Char} (h : d.isDigit) (cs : List Char) :
    Lexeme.startsMark (d :: cs) = false := by
  unfold Lexeme.startsMark
  split
  · rfl
  · rfl
  · next heq =>
      cases heq
      exact isMark_of_isDigit h
  · rfl

/-- Before a number a minus sign is a mark. -/
theorem front_minus {d : Char} (h : d.isDigit) (cs : List Char) :
    Lexeme.front ('-' :: d :: cs) = some ([.tree (.mark '-' false)], d :: cs) := by
  have hconstant : constantFront ('-' :: d :: cs) = none := rfl
  have hmark : Lexeme.front ('-' :: d :: cs) =
      some ([.tree (.mark '-' (Lexeme.startsMark (d :: cs)))], d :: cs) := rfl
  rw [hmark, startsMark_of_isDigit h]

namespace Lexeme

/-- What a text is scanned to. A step for each character is enough. -/
def Scans (cs : List Char) (lexemes : List Lexeme) : Prop :=
  ∀ count, cs.length ≤ count → scanUpTo count cs = some lexemes

theorem scans_nil : Scans [] [] := by
  intro count _
  cases count <;> rfl

theorem Scans.cons {c : Char} {cs rest : List Char} {first lexemes : List Lexeme}
    (hblank : isBlank c = false) (hfront : front (c :: cs) = some (first, rest))
    (hlength : rest.length ≤ cs.length) (h : Scans rest lexemes) :
    Scans (c :: cs) (first ++ lexemes) := by
  intro count hcount
  rw [List.length_cons] at hcount
  cases count with
  | zero => cases hcount
  | succ count =>
      have hscan := h count (by omega)
      rw [scanUpTo, if_neg (by rw [hblank]; decide), hfront]
      dsimp only [Option.bind_eq_bind, Option.bind_some]
      rw [hscan]
      rfl

/-- How lexemes are nested, whatever stands around them. -/
def Nests (lexemes : List Lexeme) (trees : List Tree) : Prop :=
  ∀ outer done rest, nest outer done (lexemes ++ rest) = nest outer (trees.reverse ++ done) rest

theorem nests_trees (trees : List Tree) : Nests (trees.map .tree) trees := by
  intro outer done rest
  induction trees generalizing done with
  | nil => rfl
  | cons t trees ih =>
      rw [List.map_cons, List.cons_append, nest, ih, List.reverse_cons, List.append_assoc]
      rfl

theorem Nests.scan {source : String} {lexemes : List Lexeme} {trees : List Tree}
    (hnest : Nests lexemes trees) (h : Scans source.toList lexemes)
    (hmark : source.toList.head? ≠ some '\ufeff') : Tree.scan source = some trees := by
  have hclosed : nest [] [] lexemes = some trees := by
    rw [← List.append_nil lexemes, hnest, List.append_nil, nest, if_pos List.isEmpty_nil,
      List.reverse_reverse]
  unfold Tree.scan
  split
  · next heq => exact absurd (congrArg List.head? heq) hmark
  · dsimp only
    rw [h _ (Nat.le_refl _), Option.bind_eq_bind, Option.bind_some, hclosed]

end Lexeme

open Lexeme

variable {lexemes : List Lexeme}

theorem scans_unsigned (hrest : EndsNumber rest) (h : Scans rest lexemes) :
    Scans (numeral.unsigned ++ rest)
      (.tree (.constant (.number (unsignedConstant numeral))) :: lexemes) := by
  obtain ⟨d, tail, hfirst, hdigit⟩ := numeral.exists_first
  have hfront := constantFront_unsigned numeral hrest
  rw [hfirst] at hfront ⊢
  exact h.cons (isBlank_of_isDigit hdigit) (front_of_constantFront hdigit hfront) (by simp)

/-- The trees of a numeral: maybe a mark, and a constant. -/
def numeralTrees : List Tree :=
  (if numeral.negative then [.mark '-' false] else []) ++
    [.constant (.number (unsignedConstant numeral))]

theorem scans_chars (hrest : EndsNumber rest) (h : Scans rest lexemes) :
    Scans (numeral.chars ++ rest) ((numeralTrees numeral).map .tree ++ lexemes) := by
  have hunsigned := scans_unsigned numeral hrest h
  unfold Numeral.chars numeralTrees
  cases numeral.negative with
  | false => exact hunsigned
  | true =>
      obtain ⟨d, tail, hfirst, hdigit⟩ := numeral.exists_first
      rw [hfirst] at hunsigned ⊢
      have hminus := front_minus hdigit (tail ++ rest)
      have hsigned := hunsigned.cons (by decide) hminus (Nat.le_refl _)
      exact hsigned

theorem scan_numeral {source : String} (h : source.toList = numeral.chars) :
    Tree.scan source = some (numeralTrees numeral) := by
  have hscans := scans_chars numeral endsNumber_nil scans_nil
  rw [List.append_nil, List.append_nil, ← h] at hscans
  refine (nests_trees _).scan hscans ?_
  rw [h]
  exact numeral.head?_chars (by decide) (by decide)

theorem parse_numeral {source : String} (h : source.toList = numeral.chars) :
    parse source = .ok (.number (numeralConstant numeral)) := by
  rw [parse, scan_numeral numeral h]
  unfold numeralTrees numeralConstant
  cases numeral.negative with
  | false => rfl
  | true => rfl

end TemplateTree.Literal
