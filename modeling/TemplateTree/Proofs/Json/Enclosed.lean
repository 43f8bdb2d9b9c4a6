import TemplateTree.Proofs.Json.Numeral

/-! # Numbers inside objects

What may follow a number in a container does not belong to a number, so a number is read there
as it is read alone. -/

namespace TemplateTree.Json

namespace Reader

variable {α β : Type} {rest : List Char}

theorem get_ok (cs : List Char) : (get : Reader (List Char)) cs = .ok (cs, cs) :=
  rfl

/-- The digits of an exponent behind its sign. -/
def exponentDigits (negative : Bool) (s : Significand) (sign : Option Char) : Reader Number := do
  match ← digits with
  | [] => if (← peek).isNone then failAfter .endOfValue else failAt .invalidNumber
  | ds =>
    let (n, left) := absorb exponentLimit 0 ds
    let down := sign = some '-'
    if left.isEmpty then
      float negative { s with exponent := if down then s.exponent - n else s.exponent + n }
    else if down ∨ s.digits = 0 then return .float ⟨negative, Magnitude.zero⟩
    else do
      modify (left.tail ++ ·)
      failAfter .numberOutOfRange

theorem number_zero (negative : Bool) (cs : List Char) :
    number negative ('0' :: cs) =
      if cs.head?.any Char.isDigit then failAt .invalidNumber cs else behind negative ['0'] cs := by
  unfold number
  show (if cs.head?.any Char.isDigit then _ else _ : Reader Number) ('0' :: cs) = _
  by_cases hdigit : cs.head?.any Char.isDigit
  · rw [if_pos hdigit, if_pos hdigit]
    rfl
  · rw [if_neg hdigit, if_neg hdigit]
    rfl

theorem number_of_ne {negative : Bool} {c : Char} (h : c ≠ '0') (cs : List Char) :
    number negative (c :: cs) = (do behind negative (← digits)) (c :: cs) := by
  unfold number
  rw [bind_of_ok (get_ok _)]
  generalize hcs : c :: cs = all
  split
  · exact absurd (List.cons.inj hcs).1 h
  · rfl

/-! ## Readers with more text behind -/

/-- What the reader reads of a text it also reads when this text follows. -/
def Stable (reader : Reader α) (rest : List Char) : Prop :=
  ∀ cs a left, reader cs = .ok (a, left) → reader (cs ++ rest) = .ok (a, left ++ rest)

namespace Stable

theorem pure (a : α) : Stable (Pure.pure a) rest := by
  rintro cs _ _ ⟨⟩
  rfl

theorem bind {reader : Reader α} {next : α → Reader β} (h : Stable reader rest)
    (hn : ∀ a, Stable (next a) rest) : Stable (reader >>= next) rest := by
  intro cs b left hr
  obtain ⟨a, middle, ha, hb⟩ := exists_of_bind hr
  rw [bind_of_ok (h cs a middle ha)]
  exact hn a middle b left hb

theorem failAfter (reason : Reason) : Stable (failAfter reason : Reader α) rest :=
  fun _ _ _ => nofun

theorem failAt (reason : Reason) : Stable (failAt reason : Reader α) rest :=
  fun _ _ _ => nofun

/-- Where a digit is missing, the text goes wrong in one of two ways. -/
theorem missing (ended wrong : Reason) :
    Stable (do if (← peek).isNone then Reader.failAfter ended else Reader.failAt wrong : Reader α)
      rest := by
  intro cs a left h
  obtain ⟨following, _, _, h⟩ := exists_of_bind h
  cases following <;> cases h

theorem takeWhile_append {p : Char → Bool} (h : rest.head?.any p = false) (cs : List Char) :
    (cs ++ rest).takeWhile p = cs.takeWhile p ∧
      (cs ++ rest).dropWhile p = cs.dropWhile p ++ rest := by
  induction cs with
  | nil => cases rest <;> simp_all
  | cons c cs ih => by_cases hc : p c <;> simp [hc, ih]

theorem digits (h : EndsNumber rest) : Stable Reader.digits rest := by
  rintro cs _ _ ⟨⟩
  obtain ⟨htake, hdrop⟩ := takeWhile_append h.any_isDigit cs
  show Except.ok ((cs ++ rest).takeWhile Char.isDigit, (cs ++ rest).dropWhile Char.isDigit) = _
  rw [htake, hdrop]

theorem float (negative : Bool) (s : Significand) : Stable (float negative s) rest := by
  unfold Reader.float
  split
  · exact pure _
  · exact failAfter _

theorem fraction (h : EndsNumber rest) (s : Significand) : Stable (fraction s) rest := by
  refine (digits h).bind fun ds => ?_
  cases ds with
  | nil => exact missing _ _
  | cons d ds => exact pure _

theorem exponentDigits (h : EndsNumber rest) (negative : Bool) (s : Significand)
    (sign : Option Char) : Stable (exponentDigits negative s sign) rest := by
  refine (digits h).bind fun ds => ?_
  cases ds with
  | nil => exact missing _ _
  | cons d ds =>
      dsimp only
      split_ifs
      · exact float _ _
      · exact float _ _
      · exact pure _
      · exact fun _ _ _ => nofun

/-- A reader may look at the first character. At the end it looks at what follows. -/
theorem look {next : Option Char → Reader α}
    (hend : ∀ a left, next none [] = .ok (a, left) → next rest.head? rest = .ok (a, left ++ rest))
    (hnext : ∀ c cs a left, next (some c) (c :: cs) = .ok (a, left) →
      next (some c) (c :: (cs ++ rest)) = .ok (a, left ++ rest)) :
    Stable (do next (← peek)) rest := by
  intro cs a left hr
  cases cs with
  | nil => exact hend a left hr
  | cons c cs => exact hnext c cs a left hr

theorem exponent (h : EndsNumber rest) (negative : Bool) (s : Significand) :
    Stable (Reader.exponent negative s) rest := by
  have hdigits := exponentDigits h negative s
  refine look ?_ fun c cs n left hr => ?_
  · intro n left hr
    have hexponent : Reader.exponent negative s [] = .ok (n, left) := hr
    obtain ⟨-, sign, ds, -, hds, heq⟩ := exponent_ok hexponent
    exact absurd (List.append_eq_nil_iff.mp (List.append_eq_nil_iff.mp heq.symm).1).2 hds.ne_nil
  · by_cases hsign : some c = some '+' ∨ some c = some '-'
    · rw [if_pos hsign] at hr ⊢
      exact hdigits (some c) cs n left hr
    · rw [if_neg hsign] at hr ⊢
      exact hdigits (some c) (c :: cs) n left hr

theorem scaled (h : EndsNumber rest) (negative : Bool) (s : Significand) :
    Stable (scaled negative s) rest := by
  refine look ?_ fun c cs n left hr => ?_
  · intro n left hr
    generalize hfirst : rest.head? = first
    split
    · exact absurd hfirst (h.head?_ne (by decide))
    · exact absurd hfirst (h.head?_ne (by decide))
    · exact float negative s [] n left hr
  · generalize hfirst : some c = first at hr ⊢
    split at hr
    · exact exponent h negative s cs n left hr
    · exact exponent h negative s cs n left hr
    · exact float negative s (c :: cs) n left hr

theorem plain (negative : Bool) (ds : List Char) : Stable (plain negative ds) rest := by
  unfold Reader.plain
  dsimp only
  split_ifs
  · exact pure _
  · exact float _ _

theorem behind (h : EndsNumber rest) (negative : Bool) (ds : List Char) :
    Stable (behind negative ds) rest := by
  cases ds with
  | nil =>
      intro cs n left hr
      obtain ⟨following, _, hpeek, hr⟩ := exists_of_bind hr
      cases following <;> cases hr
  | cons d ds =>
      refine look ?_ fun c cs n left hr => ?_
      · intro n left hr
        generalize hfirst : rest.head? = first
        split
        · exact absurd hfirst (h.head?_ne (by decide))
        · exact absurd hfirst (h.head?_ne (by decide))
        · exact absurd hfirst (h.head?_ne (by decide))
        · exact plain negative (d :: ds) [] n left hr
      · generalize hfirst : some c = first at hr ⊢
        split at hr
        · exact ((fraction h _).bind fun s => scaled h negative s) cs n left hr
        · exact exponent h negative _ cs n left hr
        · exact exponent h negative _ cs n left hr
        · exact plain negative (d :: ds) (c :: cs) n left hr

theorem number (h : EndsNumber rest) (negative : Bool) : Stable (number negative) rest := by
  intro cs n left hr
  cases cs with
  | nil =>
      obtain ⟨numeral, -, -, hnil⟩ := number_ok hr
      obtain ⟨d, digits, hfirst, -⟩ := numeral.exists_first
      rw [hfirst] at hnil
      cases hnil
  | cons c cs =>
      by_cases hzero : c = '0'
      · have hhead : (cs ++ rest).head?.any Char.isDigit = cs.head?.any Char.isDigit := by
          cases cs with
          | nil => exact h.any_isDigit
          | cons d cs => rfl
        rw [hzero, number_zero] at hr
        rw [hzero, List.cons_append, number_zero, hhead]
        split_ifs at hr ⊢
        · cases hr
        · exact behind h negative ['0'] cs n left hr
      · rw [number_of_ne hzero] at hr
        rw [List.cons_append, number_of_ne hzero]
        exact ((digits h).bind fun ds => behind h negative ds) (c :: cs) n left hr

theorem scalar (h : EndsNumber rest) {c : Char} {cs left : List Char} {n : Number}
    (hr : scalar (some c) (c :: cs) = .ok (.number n, left)) :
    Reader.scalar (some c) (c :: (cs ++ rest)) = .ok (.number n, left ++ rest) := by
  have hnumber (negative : Bool) :
      Stable (do return Json.number (← Reader.number negative)) rest :=
    (number h negative).bind fun m => pure (Json.number m)
  generalize hfirst : some c = first at hr ⊢
  unfold Reader.scalar at hr ⊢
  split at hr
  case h_1 => cases hr
  case h_2 | h_3 | h_4 | h_5 =>
    obtain ⟨_, _, _, hr⟩ := exists_of_bind hr
    obtain ⟨_, _, _, hr⟩ := exists_of_bind hr
    cases hr
  case h_6 => exact hnumber true cs (.number n) left hr
  case h_7 =>
    split_ifs at hr ⊢
    · exact hnumber false (c :: cs) (.number n) left hr
    · cases hr

end Stable

/-! ## Values -/

theorem value_eq_scalar {c : Char} (h : c = '-' ∨ c.isDigit) (depth : Nat) (cs : List Char) :
    value depth (c :: cs) = scalar (some c) (c :: cs) := by
  have hne {d : Char} (hd : d.isDigit = false) (hminus : d ≠ '-') : c ≠ d := by
    rcases h with rfl | h
    · exact hminus.symm
    · exact ne_of_isDigit h hd
  have hblank : isBlank c = false := by
    simp only [isBlank, Bool.or_eq_false_iff, beq_eq_false_iff_ne]
    exact ⟨⟨⟨hne (by decide) (by decide), hne (by decide) (by decide)⟩,
      hne (by decide) (by decide)⟩, hne (by decide) (by decide)⟩
  rw [value_eq, skipBlank_peek, List.dropWhile_cons_of_neg (by rw [hblank]; decide),
    List.head?_cons]
  generalize hfirst : some c = first
  split
  · exact absurd (Option.some.inj hfirst) (hne (by decide) (by decide))
  · exact absurd (Option.some.inj hfirst) (hne (by decide) (by decide))
  · rfl

/-- A number is read in a container as it is read alone, whatever the depth. -/
theorem value_number (h : EndsNumber rest) {numeral : Numeral} {depth : Nat} {n : Number}
    (hr : value depth numeral.chars = .ok (.number n, [])) (inner : Nat) :
    value inner (numeral.chars ++ rest) = .ok (.number n, rest) := by
  obtain ⟨c, cs, hchars, hfirst⟩ := numeral.exists_first_chars
  rw [hchars, value_eq_scalar hfirst] at hr
  rw [hchars, List.cons_append, value_eq_scalar hfirst]
  exact Stable.scalar h hr

/-! ## Objects with one member -/

/-- A key without characters that have to be escaped. -/
def IsPlainKey (key : List Char) : Prop :=
  ∀ c ∈ key, c ≠ '"' ∧ c ≠ '\\' ∧ ¬ c < ' '

theorem stringBody_plain {key : List Char} (h : IsPlainKey key) (rest : List Char) :
    stringBody (key ++ '"' :: rest) = .ok (key, rest) := by
  induction key with
  | nil => rw [List.nil_append, stringBody, if_pos rfl]
  | cons c key ih =>
      rw [IsPlainKey, List.forall_mem_cons] at h
      obtain ⟨⟨hquote, hbackslash, hspace⟩, hkey⟩ := h
      rw [List.cons_append, stringBody, if_neg hquote, if_neg hbackslash,
        if_neg hspace, ih hkey]
      rfl

theorem string_plain {key : List Char} (h : IsPlainKey key) (rest : List Char) :
    string (key ++ '"' :: rest) = .ok (String.ofList key, rest) := by
  rw [string, bind_of_ok (get_ok _), stringBody_plain h]
  rfl

theorem member_plain {key inner left : List Char} {reader : Reader α} {a : α} (h : IsPlainKey key)
    (hr : reader inner = .ok (a, left)) :
    member reader ('"' :: (key ++ '"' :: ':' :: inner)) = .ok ((String.ofList key, a), left) := by
  have hpeek (cs : List Char) : peek cs = .ok (cs.head?, cs) := rfl
  have hadvance (c : Char) (cs : List Char) : advance (c :: cs) = .ok ((), cs) := rfl
  have hskip : skipBlank (':' :: inner) = .ok ((), ':' :: inner) := rfl
  unfold member
  rw [bind_of_ok (hpeek _), List.head?_cons, if_pos rfl, bind_of_ok (hadvance _ _)]
  dsimp only
  rw [bind_of_ok (string_plain h _), bind_of_ok hskip, bind_of_ok (hpeek _)]
  show (do return (String.ofList key, ← reader) : Reader (String × α)) inner = _
  rw [bind_of_ok hr]
  rfl

/-- An object with one member has the value that is read behind the key. -/
theorem value_object {key inner : List Char} {depth : Nat} {json : Json} (hkey : IsPlainKey key)
    (hr : value depth (inner ++ '\x7d' :: rest) = .ok (json, '\x7d' :: rest)) :
    value (depth + 1) ('\x7b' :: '"' :: (key ++ '"' :: ':' :: (inner ++ '\x7d' :: rest))) =
      .ok (.object [(String.ofList key, json)], rest) := by
  have hmember := member_plain hkey hr
  have hitems : items objectStyle (member (value depth))
      ('"' :: (key ++ '"' :: ':' :: (inner ++ '\x7d' :: rest))) =
        .ok ([(String.ofList key, json)], rest) := by
    have hfirst (cs : List Char) : more objectStyle true ('"' :: cs) = .ok (true, '"' :: cs) := rfl
    have hlast (cs : List Char) : more objectStyle false ('\x7d' :: cs) = .ok (false, cs) := rfl
    rw [items, bind_of_ok (get_ok _), List.length_cons, itemsUpTo_succ, bind_of_ok (hfirst _),
      if_pos rfl, bind_of_ok hmember, List.length_append, List.length_cons, ← Nat.add_assoc,
      itemsUpTo_succ, bind_assoc, bind_of_ok (hlast _)]
    rfl
  rw [value_eq]
  show (do return .object (← object (value depth)) : Reader Json)
    ('"' :: (key ++ '"' :: ':' :: (inner ++ '\x7d' :: rest))) = _
  rw [object, bind_assoc, bind_of_ok hitems]
  rfl

end Reader

/-! ## Objects inside each other -/

/-- A text behind keys, each in an object of its own. -/
def enclosed : List String → List Char → List Char
  | [], cs => cs
  | key :: keys, cs =>
    '\x7b' :: '"' :: (key.toList ++ '"' :: ':' :: (enclosed keys cs ++ ['\x7d']))

/-- A value behind keys. -/
def behind : List String → Json → Json
  | [], json => json
  | key :: keys, json => .object [(key, behind keys json)]

theorem enclosed_cons_append (key : String) (keys : List String) (cs rest : List Char) :
    enclosed (key :: keys) cs ++ rest =
      '\x7b' :: '"' :: (key.toList ++ '"' :: ':' :: (enclosed keys cs ++ '\x7d' :: rest)) := by
  simp [enclosed]

open Reader in
theorem value_enclosed {keys : List String} (hkeys : ∀ key ∈ keys, IsPlainKey key.toList)
    {numeral : Numeral} {depth : Nat} {n : Number}
    (hr : value depth numeral.chars = .ok (.number n, [])) (inner : Nat) {rest : List Char}
    (h : EndsNumber rest) :
    value (inner + keys.length) (enclosed keys numeral.chars ++ rest) =
      .ok (behind keys (.number n), rest) := by
  induction keys generalizing rest with
  | nil => exact value_number h hr inner
  | cons key keys ih =>
      rw [List.forall_mem_cons] at hkeys
      have hvalue := value_object hkeys.1 (ih hkeys.2 (endsNumber_brace rest))
      rw [String.ofList_toList] at hvalue
      rw [enclosed_cons_append]
      exact hvalue

/-- The text of a token behind keys. -/
def enclosedText (keys : List String) (token : String) : String :=
  String.ofList (enclosed keys token.toList)

/-- A number behind keys is the number that is read alone. -/
theorem parse_enclosed {keys : List String} (hkeys : ∀ key ∈ keys, Reader.IsPlainKey key.toList)
    (hlength : keys.length ≤ nestingLimit) {token : String} {n : Number}
    (hparse : parse token = .ok (.number n))
    (hblank : ∀ c ∈ token.toList, Reader.isBlank c = false) :
    parse (enclosedText keys token) = .ok (behind keys (.number n)) := by
  obtain ⟨numeral, -, htoken, hread⟩ := parse_number hparse hblank
  rw [htoken] at hread
  have hvalue := value_enclosed hkeys hread (nestingLimit - keys.length) endsNumber_nil
  rw [Nat.sub_add_cancel hlength, List.append_nil, ← htoken] at hvalue
  refine Reader.runOn_finish_eq_ok_iff.mpr ⟨[], [], ?_, rfl⟩
  rwa [enclosedText, String.toList_ofList]

end TemplateTree.Json
