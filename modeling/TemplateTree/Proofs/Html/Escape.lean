import Mathlib.Data.List.Basic
import TemplateTree.Dom.Html

/-! # Where texts and attributes end

A part of an HTML text determines both what it stands for and what follows it. Escaped text
ends before a character that escaping never writes, and an attribute ends in one. -/

namespace TemplateTree.Html

/-! ## Splitting lists -/

section

variable {α β γ : Type}

/-- Two words without stopping characters agree when such a character follows each. -/
theorem append_inj_of_stop (stop : α → Prop) {a b x y : List α} (ha : ∀ c ∈ a, ¬ stop c)
    (hb : ∀ c ∈ b, ¬ stop c) (hx : ∃ c ∈ x.head?, stop c) (hy : ∃ c ∈ y.head?, stop c)
    (h : a ++ x = b ++ y) : a = b ∧ x = y := by
  induction a generalizing b with
  | nil =>
      cases b with
      | nil => exact ⟨rfl, h⟩
      | cons d b =>
          obtain ⟨c, hc, hs⟩ := hx
          rw [List.nil_append] at h
          simp only [h, List.cons_append, List.head?_cons, Option.mem_some_iff] at hc
          exact absurd (hc ▸ hs) (hb d List.mem_cons_self)
  | cons c a ih =>
      cases b with
      | nil =>
          obtain ⟨d, hd, hs⟩ := hy
          rw [List.nil_append] at h
          simp only [← h, List.cons_append, List.head?_cons, Option.mem_some_iff] at hd
          exact absurd (hd ▸ hs) (ha c List.mem_cons_self)
      | cons d b =>
          obtain ⟨rfl, hrest⟩ := List.cons.inj h
          rw [List.forall_mem_cons] at ha hb
          obtain ⟨rfl, rfl⟩ := ih ha.2 hb.2 hrest
          exact ⟨rfl, rfl⟩

/-- Words in a row can be told apart when each determines its end, and when a row that goes
on looks different from one that has ended. -/
theorem flatMap_append_inj {word : α → List γ} (meaning : α → β) (goesOn : List γ → Prop)
    {as bs : List α} {x y : List γ}
    (hword : ∀ a ∈ as, ∀ b ∈ bs, ∀ x y, word a ++ x = word b ++ y →
      meaning a = meaning b ∧ x = y)
    (has : ∀ a ∈ as, ∀ x, goesOn (word a ++ x)) (hbs : ∀ b ∈ bs, ∀ x, goesOn (word b ++ x))
    (hx : ¬ goesOn x) (hy : ¬ goesOn y) (h : as.flatMap word ++ x = bs.flatMap word ++ y) :
    as.map meaning = bs.map meaning ∧ x = y := by
  induction as generalizing bs with
  | nil =>
      cases bs with
      | nil => exact ⟨rfl, h⟩
      | cons b bs =>
          have hb := hbs b List.mem_cons_self (bs.flatMap word ++ y)
          rw [← List.append_assoc, ← List.flatMap_cons, ← h] at hb
          exact absurd hb hx
  | cons a as ih =>
      cases bs with
      | nil =>
          have ha := has a List.mem_cons_self (as.flatMap word ++ x)
          rw [← List.append_assoc, ← List.flatMap_cons, h] at ha
          exact absurd ha hy
      | cons b bs =>
          rw [List.flatMap_cons, List.flatMap_cons, List.append_assoc, List.append_assoc] at h
          obtain ⟨hab, hrest⟩ := hword a List.mem_cons_self b List.mem_cons_self _ _ h
          obtain ⟨hmap, rfl⟩ := ih
            (fun a ha b hb => hword a (.tail _ ha) b (.tail _ hb))
            (fun a ha => has a (.tail _ ha)) (fun b hb => hbs b (.tail _ hb)) hrest
          exact ⟨by rw [List.map_cons, List.map_cons, hab, hmap], rfl⟩

end

/-! ## Escaped text -/

/-- The character that ends escaped text. -/
def stopChar (inAttribute : Bool) : Char :=
  if inAttribute then '"' else '<'

theorem escapeChar_append_inj {inAttribute : Bool} {c d : Char} {x y : List Char}
    (h : escapeChar inAttribute c ++ x = escapeChar inAttribute d ++ y) : c = d ∧ x = y := by
  unfold escapeChar at h
  split_ifs at h <;> simp at h <;> grind

theorem escapeChar_head? (inAttribute : Bool) (c : Char) (x : List Char) :
    (escapeChar inAttribute c ++ x).head? ≠ some (stopChar inAttribute) := by
  unfold escapeChar stopChar
  cases inAttribute <;> split_ifs <;> simp_all

theorem toList_escape (inAttribute : Bool) (text : String) :
    (escape inAttribute text).toList = text.toList.flatMap (escapeChar inAttribute) :=
  String.toList_ofList

theorem escape_append (inAttribute : Bool) (first second : String) :
    escape inAttribute (first ++ second) = escape inAttribute first ++ escape inAttribute second := by
  apply String.toList_inj.mp
  rw [String.toList_append, toList_escape, toList_escape, toList_escape, String.toList_append,
    List.flatMap_append]

theorem ne_bracket_of_mem_escapeChar {inAttribute : Bool} {c d : Char}
    (h : d ∈ escapeChar inAttribute c) : d ≠ '<' ∧ d ≠ '>' := by
  unfold escapeChar at h
  split_ifs at h with hamp hl hg hq
  · revert d; simp
  · revert d; simp
  · revert d; simp
  · revert d; simp
  · rw [List.mem_singleton.mp h]
    exact ⟨hl, hg⟩

/-- Escaped text holds no bracket of either kind. -/
theorem ne_bracket_of_mem_escape {inAttribute : Bool} {text : String} {d : Char}
    (h : d ∈ (escape inAttribute text).toList) : d ≠ '<' ∧ d ≠ '>' := by
  rw [toList_escape, List.mem_flatMap] at h
  obtain ⟨c, -, hd⟩ := h
  exact ne_bracket_of_mem_escapeChar hd

theorem escape_append_inj {inAttribute : Bool} {a b : String} {x y : List Char}
    (hx : x.head? = some (stopChar inAttribute)) (hy : y.head? = some (stopChar inAttribute))
    (h : (escape inAttribute a).toList ++ x = (escape inAttribute b).toList ++ y) :
    a = b ∧ x = y := by
  rw [toList_escape, toList_escape] at h
  have hi := flatMap_append_inj id (·.head? ≠ some (stopChar inAttribute))
    (fun _ _ _ _ _ _ => escapeChar_append_inj) (fun c _ => escapeChar_head? inAttribute c)
    (fun c _ => escapeChar_head? inAttribute c) (not_not.mpr hx) (not_not.mpr hy) h
  rw [List.map_id, List.map_id] at hi
  exact ⟨String.toList_inj.mp hi.1, hi.2⟩

/-! ## Attributes -/

theorem toList_attributeText (name value : String) :
    (attributeText name value).toList =
      ' ' :: (name.toList ++ '=' :: '"' :: ((escape true value).toList ++ ['"'])) := by
  simp [attributeText]

theorem attributeText_append_inj {a b : String × String} {x y : List Char}
    (ha : '=' ∉ a.1.toList) (hb : '=' ∉ b.1.toList)
    (h : (attributeText a.1 a.2).toList ++ x = (attributeText b.1 b.2).toList ++ y) :
    a = b ∧ x = y := by
  simp only [toList_attributeText, List.cons_append, List.append_assoc, List.nil_append,
    List.cons.injEq, true_and] at h
  obtain ⟨hname, hrest⟩ := append_inj_of_stop (· = '=')
    (fun c hc he => ha (he ▸ hc)) (fun c hc he => hb (he ▸ hc)) ⟨_, rfl, rfl⟩ ⟨_, rfl, rfl⟩ h
  simp only [List.cons.injEq, true_and] at hrest
  obtain ⟨hvalue, hxy⟩ := escape_append_inj rfl rfl hrest
  exact ⟨Prod.ext (String.toList_inj.mp hname) hvalue, (List.cons.inj hxy).2⟩

end TemplateTree.Html
