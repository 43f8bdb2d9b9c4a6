import TemplateTree.Proofs.Template.Meaning
import TemplateTree.Proofs.Text.Words

/-! # Attributes after many writes

An attribute reads as the last value under its name, the classes as words with single spaces
between them. Names stand in the order in which they were first written. -/

namespace TemplateTree

namespace Keyed

variable {β : Type}

theorem lookup_cons_eq_ite (key name : String) (value : β) (list : List (String × β)) :
    ((key, value) :: list).lookup name = if name = key then some value else list.lookup name := by
  by_cases h : name = key
  · rw [h, List.lookup_cons_self, if_pos rfl]
  · rw [List.lookup_cons, beq_eq_false_iff_ne.mpr h, if_neg h]

theorem lookup_put (key name : String) (value : β) (list : List (String × β)) :
    (put key value list).lookup name = if name = key then some value else list.lookup name := by
  induction list with
  | nil => exact lookup_cons_eq_ite key name value []
  | cons entry rest ih =>
      obtain ⟨k, v⟩ := entry
      rw [put]
      by_cases hk : k = key
      · subst hk
        rw [if_pos rfl, lookup_cons_eq_ite, lookup_cons_eq_ite]
        by_cases h : name = k <;> simp [h]
      · rw [if_neg hk, lookup_cons_eq_ite, lookup_cons_eq_ite, ih]
        by_cases hname : name = k
        · simp [hname, hk]
        · simp [hname]

/-- A key keeps its place, and a new one goes to the end. -/
theorem map_fst_put (key : String) (value : β) (list : List (String × β)) :
    (put key value list).map Prod.fst =
      if key ∈ list.map Prod.fst then list.map Prod.fst else list.map Prod.fst ++ [key] := by
  induction list with
  | nil => rfl
  | cons entry rest ih =>
      obtain ⟨k, v⟩ := entry
      rw [put]
      by_cases hk : k = key
      · simp [hk]
      · have hne : key ≠ k := fun h => hk h.symm
        rw [if_neg hk, List.map_cons, ih, List.map_cons]
        by_cases hmem : key ∈ rest.map Prod.fst <;> simp only [List.mem_cons, hmem, hne, or_true,
          or_false, if_true, if_false, List.cons_append]

end Keyed

namespace Element

/-- The value that was given to a name last. -/
def lastValue? (name : String) (writes : List (String × String)) : Option String :=
  writes.reverse.lookup name

/-- What the class attribute shows of a value: its words, if it has any. -/
def classList? (value : String) : Option String :=
  if Text.words value = [] then none else some (" ".intercalate (Text.words value))

/-- The names of the attributes besides the id and the classes. -/
def names (element : Element) : List String :=
  element.attributes.map Prod.fst

/-- The written names that are neither the id nor the classes nor among the old ones, in the
order of first use. -/
def newNames (old : List String) (writes : List (String × String)) : List String :=
  ((writes.map Prod.fst).filter fun name =>
    name ≠ "id" ∧ name ≠ "class" ∧ name ∉ old).eraseDups

variable (element : Element)

/-! ## One write -/

theorem attribute?_setAttribute (key value name : String) :
    (element.setAttribute key value).attribute? name =
      if name = key then (if name = "class" then classList? value else some value)
      else element.attribute? name := by
  by_cases hid : key = "id"
  · subst hid
    by_cases hname : name = "id" <;> simp [setAttribute, withId, attribute?, className, hname]
  · by_cases hclass : key = "class"
    · subst hclass
      by_cases hname : name = "class" <;>
        simp [setAttribute, attribute?, className, classList?, hname]
    · simp only [setAttribute, attribute?, className, if_neg hid, if_neg hclass, Keyed.lookup_put]
      by_cases hname : name = key
      · simp [hname, hid, hclass]
      · simp [hname]

theorem names_setAttribute (key value : String) :
    (element.setAttribute key value).names =
      if key = "id" ∨ key = "class" ∨ key ∈ element.names then element.names
      else element.names ++ [key] := by
  by_cases hid : key = "id"
  · simp [setAttribute, withId, names, hid]
  · by_cases hclass : key = "class"
    · simp [setAttribute, names, hclass]
    · rw [setAttribute, if_neg hid, if_neg hclass]
      simp only [names, Keyed.map_fst_put, hid, hclass, false_or]

theorem classes_setAttribute (key value : String) :
    (element.setAttribute key value).classes =
      if "class" = key then Text.words value else element.classes := by
  by_cases hclass : key = "class"
  · subst hclass
    rfl
  · have hne : "class" ≠ key := Ne.symm hclass
    by_cases hid : key = "id" <;> simp [setAttribute, withId, hid, hclass, hne]

/-! ## Many writes -/

theorem lastValue?_cons (name : String) (write : String × String)
    (writes : List (String × String)) :
    lastValue? name (write :: writes) =
      (lastValue? name writes).or (if name = write.1 then some write.2 else none) := by
  rw [lastValue?, List.reverse_cons, List.lookup_append, Keyed.lookup_cons_eq_ite,
    List.lookup_nil, lastValue?]

theorem attribute?_setAttributes (writes : List (String × String)) (name : String) :
    (element.setAttributes writes).attribute? name =
      match lastValue? name writes with
      | none => element.attribute? name
      | some value => if name = "class" then classList? value else some value := by
  induction writes generalizing element with
  | nil => rfl
  | cons write rest ih =>
      rw [setAttributes_cons, ih, lastValue?_cons, attribute?_setAttribute]
      cases lastValue? name rest with
      | some value => rfl
      | none => by_cases h : name = write.1 <;> simp [h]

theorem newNames_cons (old : List String) (write : String × String)
    (writes : List (String × String)) :
    newNames old (write :: writes) =
      if write.1 = "id" ∨ write.1 = "class" ∨ write.1 ∈ old then newNames old writes
      else write.1 :: newNames (old ++ [write.1]) writes := by
  split_ifs with h
  · have hdrop : ¬ (write.1 ≠ "id" ∧ write.1 ≠ "class" ∧ write.1 ∉ old) := by tauto
    rw [newNames, List.map_cons, List.filter_cons_of_neg (by simpa using hdrop), newNames]
  · have hkeep : write.1 ≠ "id" ∧ write.1 ≠ "class" ∧ write.1 ∉ old := by tauto
    rw [newNames, List.map_cons, List.filter_cons_of_pos (by simpa using hkeep),
      List.eraseDups_cons, List.filter_filter, newNames]
    congr 3
    funext name
    grind

theorem names_setAttributes (writes : List (String × String)) :
    (element.setAttributes writes).names = element.names ++ newNames element.names writes := by
  induction writes generalizing element with
  | nil => exact (List.append_nil _).symm
  | cons write rest ih =>
      rw [setAttributes_cons, ih, names_setAttribute, newNames_cons]
      split_ifs
      · rfl
      · rw [List.append_assoc, List.singleton_append]

theorem mem_newNames {old : List String} {writes : List (String × String)} {name : String} :
    name ∈ newNames old writes ↔
      (name ∈ writes.map Prod.fst ∧ name ≠ "id" ∧ name ≠ "class" ∧ name ∉ old) := by
  rw [newNames, List.mem_eraseDups, List.mem_filter, decide_eq_true_eq]

theorem classes_setAttributes (writes : List (String × String)) :
    (element.setAttributes writes).classes =
      ((lastValue? "class" writes).map Text.words).getD element.classes := by
  induction writes generalizing element with
  | nil => rfl
  | cons write rest ih =>
      rw [setAttributes_cons, ih, lastValue?_cons]
      cases lastValue? "class" rest with
      | some value => rfl
      | none =>
          rw [Option.none_or, classes_setAttribute]
          split_ifs <;> rfl

/-- A class list of words is not changed by being written back. -/
theorem setAttribute_className (h : ∀ word ∈ element.classes, Text.IsWord word) :
    element.setAttribute "class" element.className = element := by
  rw [setAttribute, if_neg (by decide), if_pos rfl, className, Text.words_intercalate h]

theorem writeBack_setAttributes {writes : List (String × String)} {value : String}
    (hvalue : lastValue? "class" writes = some value) (hwords : Text.words value ≠ []) :
    ∃ shown, (element.setAttributes writes).attribute? "class" = some shown ∧
      (element.setAttributes writes).setAttribute "class" shown = element.setAttributes writes := by
  have hclasses : (element.setAttributes writes).classes = Text.words value := by
    rw [classes_setAttributes, hvalue, Option.map_some, Option.getD_some]
  refine ⟨(element.setAttributes writes).className, ?_, ?_⟩
  · rw [attribute?_setAttributes, hvalue, className, hclasses]
    exact if_neg hwords
  · refine setAttribute_className _ fun word hw => ?_
    rw [hclasses] at hw
    exact Text.isWord_of_mem_words hw

/-- After any writes the id is the last value under `id`, the class attribute has the words of
the last value under `class`, every other attribute is the last value under its name, and a name
that was not written reads as before. The names keep their places, and new ones follow in the
order of first use. A class list that is not empty can be written back. -/
theorem setAttributes_read (element : Element) (writes : List (String × String)) :
    let after := element.setAttributes writes
    after.attribute? "id" = (lastValue? "id" writes).or (element.attribute? "id") ∧
      (after.attribute? "class" =
        match lastValue? "class" writes with
        | none => element.attribute? "class"
        | some value =>
          if Text.words value = [] then none else some (" ".intercalate (Text.words value))) ∧
      (∀ name, name ≠ "id" → name ≠ "class" →
        after.attribute? name = (lastValue? name writes).or (element.attribute? name)) ∧
      after.names = element.names ++ newNames element.names writes ∧
      (∀ name ∈ ["id", "class"], name ∈ after.names → name ∈ element.names) ∧
      after.tag = element.tag ∧ after.text = element.text ∧
      ∀ value, lastValue? "class" writes = some value → Text.words value ≠ [] →
        ∃ shown, after.attribute? "class" = some shown ∧
          after.setAttribute "class" shown = after := by
  intro after
  have hread := attribute?_setAttributes element writes
  refine ⟨?_, hread "class", fun name hid hclass => ?_, names_setAttributes element writes, ?_,
    setAttributes_tag element writes, setAttributes_text element writes,
    fun value hvalue hwords => writeBack_setAttributes element hvalue hwords⟩
  · rw [hread "id"]
    cases lastValue? "id" writes <;> rfl
  · rw [hread name]
    cases lastValue? name writes with
    | none => rfl
    | some value => exact if_neg hclass
  · intro name hname hmem
    rw [names_setAttributes, List.mem_append, mem_newNames] at hmem
    refine hmem.resolve_right fun hnew => ?_
    rcases List.mem_pair.mp hname with rfl | rfl
    · exact hnew.2.1 rfl
    · exact hnew.2.2.1 rfl

/-- Repeated names, blanks around words, and an attribute that was there before. -/
theorem setAttributes_read_link :
    let link : Element := { tag := "a", attributes := [("href", "x")] }
    let writes := [("title", "t"), ("class", " a  b "), ("href", "y"), ("id", "p"), ("title", "u"),
      ("class", "c\td"), ("id", "q")]
    let after := link.setAttributes writes
    lastValue? "class" writes = some "c\td" ∧ Text.words "c\td" ≠ [] ∧
      after.attribute? "class" = some "c d" ∧ after.attribute? "id" = some "q" ∧
      after.attribute? "title" = some "u" ∧ after.attribute? "rel" = none ∧
      after.names = ["href", "title"] ∧ after.setAttribute "class" "c d" = after := by
  intro link writes after
  have hlast : lastValue? "class" writes = some "c\td" := by decide
  have hwords : Text.words "c\td" = ["c", "d"] := by decide +kernel
  obtain ⟨hid, hclass, hother, hnames, -, -, -, hback⟩ := setAttributes_read link writes
  have hshown : after.attribute? "class" = some "c d" := by
    rw [hclass, hlast]
    simp only [hwords]
    decide +kernel
  obtain ⟨shown, hs, hsame⟩ := hback _ hlast (by simp [hwords])
  obtain rfl : "c d" = shown := Option.some.inj (hshown.symm.trans hs)
  refine ⟨hlast, by simp [hwords], hshown, hid, hother "title" (by decide) (by decide),
    hother "rel" (by decide) (by decide), hnames.trans ?_, hsame⟩
  decide +kernel

end Element

end TemplateTree
