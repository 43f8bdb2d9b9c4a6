import TemplateTree.Literal.Number

/-! Quoted constants in source text: strings, strings of bytes, characters and bytes. -/

namespace TemplateTree.Literal

open Text

/-- What a kind of quoted constant may hold. -/
structure QuoteStyle where
  /-- The character with the code point zero. -/
  zero : Bool
  /-- Characters beyond ASCII and escapes by code point. -/
  unicode : Bool
  /-- Two-digit escapes beyond ASCII. -/
  wide : Bool

namespace QuoteStyle

def text : QuoteStyle := ⟨true, true, false⟩

def bytes : QuoteStyle := ⟨true, false, true⟩

def terminated : QuoteStyle := ⟨false, true, true⟩

def admits (style : QuoteStyle) (c : Char) : Bool :=
  (style.unicode || c.toNat < 128) && (style.zero || c != '\x00')

end QuoteStyle

/-- The code point in braces, at most six digits, and how many characters it takes. -/
def codePoint (value digits used : Nat) : List Char → Option (Char × Nat)
  | [] => none
  | c :: cs =>
    if digits ≠ 0 ∧ c = '_' then codePoint value digits (used + 1) cs
    else if digits ≠ 0 ∧ c = '\x7d' then
      if h : value.isValidChar then some (Char.ofNatAux value h, used + 1) else none
    else
      match digitValue? c with
      | some d =>
        if digits = 6 then none else codePoint (value * 16 + d) (digits + 1) (used + 1) cs
      | none => none

/-- The character of an escape without its backslash, and how many characters it takes. -/
def escaped (style : QuoteStyle) : List Char → Option (Char × Nat)
  | 'n' :: _ => some ('\n', 1)
  | 'r' :: _ => some ('\r', 1)
  | 't' :: _ => some ('\t', 1)
  | '\\' :: _ => some ('\\', 1)
  | '\'' :: _ => some ('\'', 1)
  | '"' :: _ => some ('"', 1)
  | '0' :: _ => if style.zero then some ('\x00', 1) else none
  | 'x' :: a :: b :: _ => do
    let high ← digitValue? a
    let low ← digitValue? b
    let c := Char.ofNat (16 * high + low)
    if (style.wide || high < 8) && (style.zero || c != '\x00') then some (c, 3) else none
  | 'u' :: '\x7b' :: cs => do
    if ¬ style.unicode then none
    let (c, used) ← codePoint 0 0 2 cs
    if style.admits c then some (c, used) else none
  | _ => none

/-- The blanks that a broken line skips, from the line break on. Something else has to
follow, and a carriage return only counts before a line feed. -/
def skipped : List Char → Option Nat
  | [] => none
  | '\r' :: '\n' :: cs => (skipped cs).map (· + 2)
  | '\r' :: _ => none
  | c :: cs =>
    if c = '\n' ∨ c = ' ' ∨ c = '\t' then (skipped cs).map (· + 1) else some 0

/-- The text up to the closing quote, and what follows the quote. -/
def cooked (style : QuoteStyle) : List Char → Option (List Char × List Char)
  | [] => none
  | c :: cs =>
    if c = '"' then some ([], cs)
    else if c = '\r' then
      if cs.head? = some '\n' then cooked style cs else none
    else if c = '\\' then
      if cs.head?.any fun d => d == '\n' || d == '\r' then do
        cooked style (cs.drop (← skipped cs))
      else do
        let (d, used) ← escaped style cs
        let (text, rest) ← cooked style (cs.drop used)
        return (d :: text, rest)
    else if style.admits c then do
      let (text, rest) ← cooked style cs
      return (c :: text, rest)
    else none
termination_by cs => cs.length
decreasing_by all_goals simp only [List.length_drop, List.length_cons]; omega

/-- The text up to a quote with `hashes` hash marks, and what follows them. -/
def rawBody (style : QuoteStyle) (hashes : Nat) : List Char → Option (List Char × List Char)
  | [] => none
  | '"' :: cs =>
    if (cs.take hashes) = List.replicate hashes '#' then some ([], cs.drop hashes)
    else (rawBody style hashes cs).map fun (text, rest) => ('"' :: text, rest)
  | '\r' :: '\n' :: cs =>
    (rawBody style hashes cs).map fun (text, rest) => ('\r' :: '\n' :: text, rest)
  | c :: cs =>
    if c ≠ '\r' ∧ style.admits c then
      (rawBody style hashes cs).map fun (text, rest) => (c :: text, rest)
    else none

/-- A raw text behind its mark: hash marks, a quote, and the same in reverse. -/
def raw (style : QuoteStyle) (cs : List Char) : Option (List Char × List Char) :=
  let hashes := (cs.takeWhile (· == '#')).length
  match cs.drop hashes with
  | '"' :: rest => if hashes ≤ 255 then rawBody style hashes rest else none
  | _ => none

/-- What follows a character or a byte behind its opening quote. -/
def afterChar (style : QuoteStyle) (cs : List Char) : Option (List Char) := do
  let rest ← match cs with
    | '\\' :: cs => (escaped style cs).map fun (_, used) => cs.drop used
    | c :: cs => if style.unicode || c.toNat < 128 then some cs else none
    | [] => none
  match rest with
  | '\'' :: rest => some rest
  | _ => none

/-- A quoted constant at the front of a text: its value, when it is a string, and what
follows it without its suffix. -/
def quotedFront (cs : List Char) : Option (Option (List Char) × List Char) :=
  let string (found : Option (List Char × List Char)) :=
    found.map fun (text, rest) => (some text, rest)
  let other (found : Option (List Char × List Char)) :=
    found.map fun (_, rest) => (none, rest)
  match cs with
  | '"' :: rest => string (cooked .text rest)
  | 'r' :: rest => string (raw .text rest)
  | 'b' :: '"' :: rest => other (cooked .bytes rest)
  | 'b' :: 'r' :: rest => other (raw .bytes rest)
  | 'c' :: '"' :: rest => other (cooked .terminated rest)
  | 'c' :: 'r' :: rest => other (raw .terminated rest)
  | 'b' :: '\'' :: rest => (afterChar .bytes rest).map fun rest => (none, rest)
  | '\'' :: rest => (afterChar .text rest).map fun rest => (none, rest)
  | _ => none

/-- The text of the first characters, up to `rest`. -/
def sourceBefore (cs rest : List Char) : String :=
  String.ofList (cs.take (cs.length - rest.length))

/-- A constant at the front of a text, and what follows it. -/
def constantFront (cs : List Char) : Option (Constant × List Char) :=
  match quotedFront cs with
  | some (value, rest) =>
    let rest := afterSuffix rest
    let source := sourceBefore cs rest
    match value with
    | some text => some (.string ⟨String.ofList text, source⟩, rest)
    | none => some (.other source, rest)
  | none => do
    let rest ← afterNumber cs
    let source := sourceBefore cs rest
    match NumberConstant.ofSource? source.toList with
    | some number => some (.number number, rest)
    | none => some (.other source, rest)

end TemplateTree.Literal
