import Mathlib.Logic.Basic
import TemplateTree.Json.Reader

/-! # Readers in steps

How readers go on from one to the next, and what holds of all that they give. Lists are read
in rounds: what stands before an item first, and then the item. -/

namespace TemplateTree.Json.Reader

variable {α β : Type}

section

variable {reader : Reader α} {next : α → Reader β} {cs rest : List Char}

theorem bind_of_ok {a : α} (h : reader cs = .ok (a, rest)) :
    (reader >>= next) cs = next a rest := by
  show Except.bind (reader cs) _ = _
  rw [h]
  rfl

theorem bind_of_error {fault : Fault} (h : reader cs = .error fault) :
    (reader >>= next) cs = .error fault := by
  show Except.bind (reader cs) _ = _
  rw [h]
  rfl

theorem exists_of_bind {b : β} (h : (reader >>= next) cs = .ok (b, rest)) :
    ∃ a middle, reader cs = .ok (a, middle) ∧ next a middle = .ok (b, rest) := by
  cases hr : reader cs with
  | error fault =>
      rw [bind_of_error hr] at h
      cases h
  | ok result =>
      obtain ⟨a, middle⟩ := result
      rw [bind_of_ok hr] at h
      exact ⟨a, middle, rfl, h⟩

/-- Looking at what follows the blanks. -/
theorem skipBlank_peek (look : Option Char → Reader α) (cs : List Char) :
    (do skipBlank; look (← peek)) cs =
      look (cs.dropWhile isBlank).head? (cs.dropWhile isBlank) := rfl

end

/-! ## Whole texts -/

theorem runOn_of_error {reader : Reader α} {text : String} {fault : Fault}
    (h : reader text.toList = .error fault) :
    reader.runOn text = .error (fault.locate text) := by
  rw [runOn, h]

/-- A text can be read when a reader leaves nothing but blanks of it. -/
theorem runOn_finish_eq_ok_iff {reader : Reader α} {text : String} {a : α} :
    runOn (do let a ← reader; finish; return a) text = .ok a ↔
      ∃ rest last, reader text.toList = .ok (a, rest) ∧ finish rest = .ok ((), last) := by
  constructor
  · intro h
    unfold runOn at h
    split at h
    · next result last hr =>
        cases h
        obtain ⟨a, rest, ha, hr⟩ := exists_of_bind hr
        obtain ⟨_, last, hf, hr⟩ := exists_of_bind hr
        cases hr
        exact ⟨rest, last, ha, hf⟩
    · cases h
  · rintro ⟨rest, last, ha, hf⟩
    rw [runOn, bind_of_ok ha, bind_of_ok hf]
    rfl

/-! ## Lists in rounds -/

/-- Whether an item follows. Unless it is the first, a comma stands before it. -/
def more (style : Delimited) (first : Bool) : Reader Bool := do
  skipBlank
  match ← peek with
  | none => failAfter style.unclosed
  | some c =>
    if c = style.close then do
      advance
      return false
    else if first then return true
    else if c = ',' then do
      advance
      skipBlank
      match ← peek with
      | none => failAfter .endOfValue
      | some d => if d = style.close then failAt .trailingComma else return true
    else failAt style.expected

theorem itemsUpTo_succ (style : Delimited) (item : Reader α) (first : Bool) (count : Nat) :
    itemsUpTo style item first (count + 1) = (do
      if ← more style first then
        let x ← item
        let xs ← itemsUpTo style item false count
        return x :: xs
      else return []) := by
  rw [itemsUpTo, more]
  simp only [bind_assoc]
  refine bind_congr fun _ => bind_congr fun following => ?_
  cases following with
  | none => rfl
  | some c =>
      by_cases hc : c = style.close
      · simp only [hc, if_true, bind_assoc, pure_bind, Bool.false_eq_true, if_false]
      · cases first with
        | true => simp [hc]
        | false =>
            by_cases hs : c = ','
            · simp only [if_neg hc, if_pos hs, bind_assoc, not_false_eq_true, if_true,
                Bool.false_eq_true, if_false]
              refine bind_congr fun _ => bind_congr fun _ => bind_congr fun second => ?_
              cases second with
              | none => rfl
              | some d =>
                  by_cases hd : d = style.close
                  · simp only [if_pos hd]
                    rfl
                  · simp only [if_neg hd, pure_bind, if_true]
            · simp only [if_neg hc, if_neg hs, not_false_eq_true, if_true, Bool.false_eq_true,
                if_false]
              rfl

/-! ## Values by their first character -/

/-- A value that is no container. -/
def scalar : Option Char → Reader Json
  | none => failAfter .endOfValue
  | some 'n' => do advance; word ['u', 'l', 'l']; return .null
  | some 't' => do advance; word ['r', 'u', 'e']; return .bool true
  | some 'f' => do advance; word ['a', 'l', 's', 'e']; return .bool false
  | some '"' => do advance; return .string (← string)
  | some '-' => do advance; return .number (← number true)
  | some c => if c.isDigit then return .number (← number false) else failAt .expectedValue

/-- A container behind its opening bracket, when there may be `depth` inside each other. -/
def container (depth : Nat) (inside : Nat → Reader Json) : Reader Json :=
  match depth with
  | 0 => failAt .tooDeep
  | depth + 1 => do advance; inside depth

theorem value_eq (depth : Nat) :
    value depth = (do
      skipBlank
      match ← peek with
      | some '[' => container depth fun depth => do return .array (← list (value depth))
      | some '\x7b' => container depth fun depth => do return .object (← object (value depth))
      | next => scalar next) := by
  rw [value.eq_def]
  refine bind_congr fun _ => bind_congr fun next => ?_
  split
  case h_9 =>
    symm
    split
    · simp_all
    · simp_all
    · simp_all [scalar]
  all_goals rfl

end TemplateTree.Json.Reader
