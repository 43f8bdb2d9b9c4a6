import TemplateTree.Literal.Tree
import TemplateTree.Text.Identifier

/-! Number constants in source text: where they end, and what their digits and their suffix
are. -/

namespace TemplateTree.Literal

open Text

def isDigitOrGap (c : Char) : Bool :=
  c.isDigit || c == '_'

def isExponentMark (c : Char) : Bool :=
  c == 'e' || c == 'E'

def digitValue? (c : Char) : Option Nat :=
  if c.isDigit then some (c.toNat - '0'.toNat)
  else if 'a' ≤ c ∧ c ≤ 'f' then some (c.toNat - 'a'.toNat + 10)
  else if 'A' ≤ c ∧ c ≤ 'F' then some (c.toNat - 'A'.toNat + 10)
  else none

/-- The base a number is written in, and its text behind the base mark. -/
def numberBase : List Char → Nat × List Char
  | '0' :: 'x' :: cs => (16, cs)
  | '0' :: 'o' :: cs => (8, cs)
  | '0' :: 'b' :: cs => (2, cs)
  | cs => (10, cs)

/-! ### Where a number ends -/

/-- What follows an exponent behind its mark, if it has a digit and at most one sign. -/
def afterExponent (signed valued : Bool) : List Char → Option (List Char)
  | [] => if valued then some [] else none
  | c :: cs =>
    if c.isDigit then afterExponent signed true cs
    else if c = '_' then afterExponent signed valued cs
    else if valued then some (c :: cs)
    else if (c = '+' ∨ c = '-') ∧ ¬ signed then afterExponent true valued cs
    else none

/-- What follows a float without its suffix. An exponent mark without a value belongs to
the suffix. -/
def afterFloat (cs : List Char) : Option (List Char) :=
  if ¬ cs.head?.any Char.isDigit then none
  else
    match cs.dropWhile isDigitOrGap with
    | '.' :: rest =>
      if rest.head?.any fun c => c == '.' || startsIdentifier c then none
      else
        match rest.dropWhile isDigitOrGap with
        | [] => some []
        | c :: rest =>
          if isExponentMark c then some ((afterExponent false false rest).getD (c :: rest))
          else some (c :: rest)
    | c :: rest => if isExponentMark c then afterExponent false false rest else none
    | [] => none

/-- What follows the digits of an integer. -/
def afterDigits (base : Nat) (valued : Bool) : List Char → Option (List Char)
  | [] => if valued then some [] else none
  | c :: cs =>
    if c = '_' then
      if base = 10 ∧ ¬ valued then none else afterDigits base valued cs
    else
      match digitValue? c with
      | some d =>
        if d < base then afterDigits base true cs
        else if c.isDigit ∨ ¬ valued then none
        else some (c :: cs)
      | none => if valued then some (c :: cs) else none

/-- Leaves out the suffix of a constant. -/
def afterSuffix (cs : List Char) : List Char :=
  if cs.head?.any startsIdentifier then cs.dropWhile continuesIdentifier else cs

/-- Leaves out the suffix of a number, behind which its word has to end. -/
def afterNumberSuffix (cs : List Char) : Option (List Char) :=
  let rest := afterSuffix cs
  if rest.head?.any continuesIdentifier then none else some rest

/-- What follows a number with its suffix. What cannot end as a float may end as an integer. -/
def afterNumber (cs : List Char) : Option (List Char) :=
  let (base, digits) := numberBase cs
  (afterFloat cs).bind afterNumberSuffix <|>
    (afterDigits base false digits).bind afterNumberSuffix

/-! ### What a number stands for -/

/-- Whether an exponent mark has a value behind it. -/
def startsExponent (cs : List Char) : Bool :=
  (cs.dropWhile (· == '_')).head?.any fun c => c.isDigit || c == '+' || c == '-'

/-- The value and the suffix of an integer; a float has none. -/
def integerParts (base value : Nat) (valued : Bool) : List Char → Option (Nat × List Char)
  | [] => if valued then some (value, []) else none
  | c :: cs =>
    let stop := if valued then some (value, c :: cs) else none
    if c = '_' then integerParts base value valued cs
    else if base = 10 ∧ c = '.' then none
    else if base = 10 ∧ isExponentMark c then
      if startsExponent cs then none else stop
    else
      match digitValue? c with
      | some d =>
        if d < base then integerParts base (value * base + d) true cs
        else if c.isDigit ∨ 10 < base then none
        else stop
      | none => stop

/-- What has been seen of a float. -/
structure FloatState where
  point : Bool := false
  mark : Bool := false
  sign : Bool := false
  value : Bool := false

/-- The digits and the suffix of a float. Separators and plus signs are left out, and the
exponent mark is small. -/
def floatParts (state : FloatState) : List Char → Option (List Char × List Char)
  | [] => if state.mark && !state.value then none else some ([], [])
  | c :: cs =>
    let stop := if state.mark && !state.value then none else some ([], c :: cs)
    let keep (d : Char) (parts : Option (List Char × List Char)) :=
      parts.map fun (digits, suffix) => (d :: digits, suffix)
    if c = '_' then floatParts state cs
    else if c.isDigit then
      keep c (floatParts { state with value := state.value || state.mark } cs)
    else if c = '.' then
      if state.mark || state.point then none
      else keep '.' (floatParts { state with point := true } cs)
    else if isExponentMark c then
      if ¬ startsExponent cs then stop
      else if state.mark then (if state.value then stop else none)
      else keep 'e' (floatParts { state with mark := true } cs)
    else if c = '+' ∨ c = '-' then
      if state.sign || state.value || !state.mark then none
      else
        let parts := floatParts { state with sign := true } cs
        if c = '-' then keep '-' parts else parts
    else stop

def NumberConstant.ofSource? (cs : List Char) : Option NumberConstant :=
  let make (float : Bool) (digits : String) (suffix : List Char) : NumberConstant :=
    { float, digits, suffix := String.ofList suffix, source := String.ofList cs }
  let (base, rest) := numberBase cs
  match integerParts base 0 false rest with
  | some (value, suffix) => some (make false (toString value) suffix)
  | none => do
    let (digits, suffix) ← floatParts {} cs
    return make true (String.ofList digits) suffix

end TemplateTree.Literal
