import TemplateTree.Json.Basic
import TemplateTree.Json.Fault
import TemplateTree.Keyed

/-! Reading JSON text. A reader takes characters off the front of a text; values nest at
most `nestingLimit` deep. Object members keep their order, and a repeated key takes its
last value in its first place. -/

namespace TemplateTree.Json

abbrev Reader := StateT (List Char) (Except Fault)

def byteCount : List Char → Nat
  | [] => 0
  | c :: cs => c.utf8Size + byteCount cs

namespace Reader

variable {α : Type}

/-- Fails behind everything that has been read. -/
def failAfter (reason : Reason) : Reader α :=
  fun cs => .error ⟨reason, byteCount cs⟩

/-- Fails behind the first byte that has not been read. -/
def failAt (reason : Reason) : Reader α :=
  fun cs => .error ⟨reason, byteCount cs - 1⟩

def peek : Reader (Option Char) :=
  return (← get).head?

def advance : Reader Unit :=
  modify List.tail

def isBlank (c : Char) : Bool :=
  c == ' ' || c == '\n' || c == '\t' || c == '\r'

def skipBlank : Reader Unit :=
  modify (·.dropWhile isBlank)

/-- Reads exactly these characters. -/
def word : List Char → Reader Unit
  | [] => pure ()
  | c :: cs => do
    match ← peek with
    | none => failAfter .endOfValue
    | some d => if d = c then do advance; word cs else failAt .expectedIdent

/-! ### Numbers -/

def digitValue (c : Char) : Nat :=
  c.toNat - '0'.toNat

/-- Appends digits to a number while it stays below `limit`; the first digit that does not
fit and all after it are left over. -/
def absorb (limit : Nat) : Nat → List Char → Nat × List Char
  | n, [] => (n, [])
  | n, d :: ds =>
    let m := n * 10 + digitValue d
    if m < limit then absorb limit m ds else (n, d :: ds)

def digits : Reader (List Char) := do
  let cs ← get
  set (cs.dropWhile Char.isDigit)
  return cs.takeWhile Char.isDigit

/-- The significant digits kept in 64 bits, and the power of ten they are scaled by. -/
structure Significand where
  digits : Nat
  exponent : Int

def significandLimit : Nat := twoTo 64

def exponentLimit : Nat := twoTo 31

def float (negative : Bool) (s : Significand) : Reader Number :=
  match (Magnitude.ofNat? s.digits).bind (·.scaleTen? s.exponent) with
  | some magnitude => return .float ⟨negative, magnitude⟩
  | none => failAfter .numberOutOfRange

/-- The digits after the point. Those that do not fit have no effect. -/
def fraction (s : Significand) : Reader Significand := do
  match ← digits with
  | [] => if (← peek).isNone then failAfter .endOfValue else failAt .invalidNumber
  | ds =>
    let (n, left) := absorb significandLimit s.digits ds
    return ⟨n, s.exponent - (ds.length - left.length)⟩

/-- The written exponent. One that leaves 32 bits makes a number zero or refuses it at the
digit where it leaves. -/
def exponent (negative : Bool) (s : Significand) : Reader Number := do
  let sign ← peek
  if sign = some '+' ∨ sign = some '-' then advance
  match ← digits with
  | [] => if (← peek).isNone then failAfter .endOfValue else failAt .invalidNumber
  | ds =>
    let (n, left) := absorb exponentLimit 0 ds
    let down := sign = some '-'
    if left.isEmpty then
      float negative { s with exponent := if down then s.exponent - n else s.exponent + n }
    else if down ∨ s.digits = 0 then return .float ⟨negative, Magnitude.zero⟩
    else do
      modify (left.tail ++ ·)
      failAfter .numberOutOfRange

/-- A number without its sign. Digits of the integer part that do not fit in 64 bits only
scale it. -/
def number (negative : Bool) : Reader Number := do
  let ds ← match ← get with
    | '0' :: rest =>
      if rest.head?.any Char.isDigit then do advance; failAt .invalidNumber
      else do advance; pure ['0']
    | _ => digits
  if ds.isEmpty then
    if (← peek).isNone then failAfter .endOfValue else failAt .invalidNumber
  let (n, left) := absorb significandLimit 0 ds
  let whole : Significand := ⟨n, left.length⟩
  match ← peek with
  | some '.' => do
    advance
    let s ← fraction whole
    match ← peek with
    | some 'e' | some 'E' => do advance; exponent negative s
    | _ => float negative s
  | some 'e' | some 'E' => do advance; exponent negative whole
  | _ =>
    let value : Int := if negative then -n else n
    if left.isEmpty ∧ Number.exactInteger value ∧ ¬ (negative ∧ n = 0) then
      return .integer value
    else float negative whole

/-! ### Strings -/

def hexValue? (c : Char) : Option Nat :=
  if c.isDigit then some (c.toNat - '0'.toNat)
  else if 'a' ≤ c ∧ c ≤ 'f' then some (c.toNat - 'a'.toNat + 10)
  else if 'A' ≤ c ∧ c ≤ 'F' then some (c.toNat - 'A'.toNat + 10)
  else none

/-- The value of the four hexadecimal digits at the front. They are taken as four bytes,
which other characters need not fill. -/
def hexFour (cs : List Char) : Except Fault Nat :=
  if byteCount (cs.take 4) < 4 then .error ⟨.endOfString, 0⟩
  else
    match (cs.take 4).mapM hexValue? with
    | some ds => .ok (ds.foldl (fun n d => 16 * n + d) 0)
    | none => .error ⟨.invalidEscape, byteCount cs - 4⟩

def isHighSurrogate (n : Nat) : Bool :=
  0xD800 ≤ n && n < 0xDC00

def isLowSurrogate (n : Nat) : Bool :=
  0xDC00 ≤ n && n < 0xE000

/-- The character of an escape without its backslash, and how many characters it takes. A
character beyond 16 bits is written as two surrogates. -/
def escape : List Char → Except Fault (Char × Nat)
  | [] => .error ⟨.endOfString, 0⟩
  | '"' :: _ => .ok ('"', 1)
  | '\\' :: _ => .ok ('\\', 1)
  | '/' :: _ => .ok ('/', 1)
  | 'b' :: _ => .ok ('\x08', 1)
  | 'f' :: _ => .ok ('\x0c', 1)
  | 'n' :: _ => .ok ('\n', 1)
  | 'r' :: _ => .ok ('\r', 1)
  | 't' :: _ => .ok ('\t', 1)
  | 'u' :: cs => do
    let high ← hexFour cs
    let rest := cs.drop 4
    if isLowSurrogate high then .error ⟨.loneSurrogate, byteCount rest⟩
    else if isHighSurrogate high then
      match rest with
      | '\\' :: 'u' :: cs => do
        let low ← hexFour cs
        if isLowSurrogate low then
          return (Char.ofNat (0x10000 + (high - 0xD800) * 0x400 + (low - 0xDC00)), 11)
        else .error ⟨.loneSurrogate, byteCount (cs.drop 4)⟩
      | [] | ['\\'] => .error ⟨.endOfString, 0⟩
      | '\\' :: cs | cs => .error ⟨.unfinishedSurrogate, byteCount cs - 1⟩
    else return (Char.ofNat high, 5)
  | cs => .error ⟨.invalidEscape, byteCount cs - 1⟩

/-- The text up to the closing quote, and what follows the quote. -/
def stringBody : List Char → Except Fault (List Char × List Char)
  | [] => .error ⟨.endOfString, 0⟩
  | c :: cs =>
    if c = '"' then .ok ([], cs)
    else if c = '\\' then do
      let (c, used) ← escape cs
      let (text, rest) ← stringBody (cs.drop used)
      return (c :: text, rest)
    else if c < ' ' then .error ⟨.controlCharacter, byteCount cs⟩
    else do
      let (text, rest) ← stringBody cs
      return (c :: text, rest)
termination_by cs => cs.length
decreasing_by all_goals simp only [List.length_drop, List.length_cons]; omega

/-- A string without its opening quote. -/
def string : Reader String := do
  let (text, rest) ← stringBody (← get)
  set rest
  return String.ofList text

/-! ### Lists and objects -/

/-- What separates the items of a list or an object. -/
structure Delimited where
  close : Char
  unclosed : Reason
  expected : Reason

/-- At most `count` items and the closing bracket. Every item takes a character, so with as
many items as there are characters the text ends first. -/
def itemsUpTo (style : Delimited) (item : Reader α) (first : Bool) : Nat → Reader (List α)
  | 0 => failAfter style.unclosed
  | count + 1 => do
    skipBlank
    match ← peek with
    | none => failAfter style.unclosed
    | some c =>
      if c = style.close then do
        advance
        return []
      else do
        if ¬ first then
          if c = ',' then do
            advance
            skipBlank
            match ← peek with
            | none => failAfter .endOfValue
            | some d => if d = style.close then failAt .trailingComma
          else failAt style.expected
        let x ← item
        let xs ← itemsUpTo style item false count
        return x :: xs

def items (style : Delimited) (item : Reader α) : Reader (List α) := do
  itemsUpTo style item true (← get).length

def listStyle : Delimited := ⟨']', .endOfList, .expectedElement⟩

def objectStyle : Delimited := ⟨'\x7d', .endOfObject, .expectedMember⟩

/-- The items of a list behind its opening bracket. -/
def list (item : Reader α) : Reader (List α) :=
  items listStyle item

def member (value : Reader α) : Reader (String × α) := do
  if (← peek) = some '"' then advance else failAt .keyNotString
  let key ← string
  skipBlank
  match ← peek with
  | none => failAfter .endOfObject
  | some ':' => advance
  | some _ => failAt .expectedColon
  return (key, ← value)

/-- The members of an object behind its opening brace. -/
def object (value : Reader α) : Reader (List (String × α)) := do
  let members ← items objectStyle (member value)
  return members.foldl (fun kept (key, value) => Keyed.put key value kept) []

/-- A value with at most `depth` containers inside each other. -/
def value (depth : Nat) : Reader Json := do
  skipBlank
  match ← peek with
  | none => failAfter .endOfValue
  | some 'n' => do advance; word ['u', 'l', 'l']; return .null
  | some 't' => do advance; word ['r', 'u', 'e']; return .bool true
  | some 'f' => do advance; word ['a', 'l', 's', 'e']; return .bool false
  | some '"' => do advance; return .string (← string)
  | some '-' => do advance; return .number (← number true)
  | some '[' =>
    match depth with
    | 0 => failAt .tooDeep
    | depth + 1 => do advance; return .array (← list (value depth))
  | some '\x7b' =>
    match depth with
    | 0 => failAt .tooDeep
    | depth + 1 => do advance; return .object (← object (value depth))
  | some c => if c.isDigit then return .number (← number false) else failAt .expectedValue

/-- Nothing but blanks is left. -/
def finish : Reader Unit := do
  skipBlank
  if (← peek).isSome then failAt .trailingCharacters

end Reader

def nestingLimit : Nat := 127

def Reader.runOn {α : Type} (reader : Reader α) (text : String) : Except Error α :=
  match reader text.toList with
  | .ok (result, _) => .ok result
  | .error fault => .error (fault.locate text)

/-- Reads a text that holds one value. -/
def parse (text : String) : Except Error Json :=
  Reader.runOn (do
    let value ← Reader.value nestingLimit
    Reader.finish
    return value) text

end TemplateTree.Json
