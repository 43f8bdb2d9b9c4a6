import Mathlib
import TemplateTree.Proofs.Json.Nesting
import TemplateTree.Proofs.Json.Position
import TemplateTree.Proofs.Template.Conversion
import TemplateTree.Template.Decode

/-! # Lists decoded from text

A list is decoded item by item, and each item is converted as soon as it has been read. The
outcome is the same as after reading the whole list: both ways go through the same rounds. -/

namespace TemplateTree

open Json

variable {ν : Type}

section

variable {α β φ : Type} {f : α → Except φ β}

theorem mapM_eq_ok_iff {xs : List α} {ys : List β} :
    xs.mapM f = .ok ys ↔ List.Forall₂ (fun x y => f x = .ok y) xs ys := by
  induction xs generalizing ys with
  | nil =>
      rw [List.forall₂_nil_left_iff]
      exact ⟨fun h => by cases h; rfl, fun h => h ▸ rfl⟩
  | cons x xs ih =>
      rw [List.mapM_cons, List.forall₂_cons_left_iff]
      constructor
      · intro h
        obtain ⟨y, hy, h⟩ := exists_of_bind_eq_ok h
        obtain ⟨rest, hrest, h⟩ := exists_of_bind_eq_ok h
        cases h
        exact ⟨y, rest, hy, ih.mp hrest, rfl⟩
      · rintro ⟨y, rest, hy, hrest, rfl⟩
        rw [hy, ih.mpr hrest]
        rfl

theorem mapM_eq_error {before after : List α} {x : α} {fault : φ}
    (hb : ∀ earlier ∈ before, ∃ y, f earlier = .ok y) (hx : f x = .error fault) :
    (before ++ x :: after).mapM f = .error fault := by
  induction before with
  | nil =>
      rw [List.nil_append, List.mapM_cons, hx]
      rfl
  | cons earlier before ih =>
      rw [List.forall_mem_cons] at hb
      obtain ⟨⟨y, hy⟩, hb⟩ := hb
      rw [List.cons_append, List.mapM_cons, hy, ih hb]
      rfl

end

/-! ## One item -/

namespace Template

variable {depth : Nat} {cs rest : List Char} {value : Json}

theorem item_of_error {fault : Fault} (h : Reader.value depth cs = .error fault) :
    (item depth : Reader (Template ν)) cs = .error fault :=
  Reader.bind_of_error h

theorem item_of_ok {template : Template ν} (h : Reader.value depth cs = .ok (value, rest))
    (hv : ofJson value = .ok template) : item depth cs = .ok (template, rest) := by
  rw [item, Reader.bind_of_ok h, hv]
  rfl

theorem skipBreak_eq_ok (cs : List Char) : ∃ after, skipBreak cs = .ok ((), after) := by
  rw [skipBreak, Reader.skipBlank_peek]
  generalize cs.dropWhile Reader.isBlank = start
  generalize start.head? = next
  split
  · exact ⟨_, rfl⟩
  · exact ⟨_, rfl⟩
  · exact ⟨_, rfl⟩

/-- Whatever follows a value that is no template, the refusal names its fault. -/
theorem item_of_refused {fault : TemplateFault} (h : Reader.value depth cs = .ok (value, rest))
    (hv : (ofJson value : Except TemplateFault (Template ν)) = .error fault) :
    ∃ remaining, (item depth : Reader (Template ν)) cs =
      .error ⟨.refused fault.message, remaining⟩ := by
  obtain ⟨after, hskip⟩ := skipBreak_eq_ok rest
  rw [item, Reader.bind_of_ok h, hv]
  exact ⟨_, Reader.bind_of_ok hskip⟩

end Template

/-! ## All items -/

/-- How decoding items as they are read compares to converting them afterwards. -/
inductive Streamed : Except Fault (List Json × List Char) →
    Except Fault (List (Template ν) × List Char) → Prop where
  | done {values : List Json} {templates : List (Template ν)} {rest : List Char}
      (h : values.mapM Template.ofJson = .ok templates) :
      Streamed (.ok (values, rest)) (.ok (templates, rest))
  | refused {values : List Json} {fault : TemplateFault} {rest : List Char} {remaining : Nat}
      (h : values.mapM (Template.ofJson (ν := ν)) = .error fault) :
      Streamed (.ok (values, rest)) (.error ⟨.refused fault.message, remaining⟩)
  | failed {first second : Fault} : Streamed (.error first) (.error second)

namespace Streamed

variable {value : Json} {read : Reader (List Json)} {decoded : Reader (List (Template ν))}
  {cs : List Char}

/-- After an item that is a template, the other items decide. -/
theorem cons {template : Template ν} (h : Streamed (read cs) (decoded cs))
    (ht : Template.ofJson value = .ok template) :
    Streamed ((do return value :: (← read) : Reader (List Json)) cs)
      ((do return template :: (← decoded) : Reader (List (Template ν))) cs) := by
  generalize hr : read cs = outcome at h
  generalize hd : decoded cs = outcome' at h
  cases h with
  | done h =>
      rw [Reader.bind_of_ok hr, Reader.bind_of_ok hd]
      refine .done ?_
      rw [List.mapM_cons, ht, h]
      rfl
  | refused h =>
      rw [Reader.bind_of_ok hr, Reader.bind_of_error hd]
      refine .refused ?_
      rw [List.mapM_cons, ht, h]
      rfl
  | failed =>
      rw [Reader.bind_of_error hr, Reader.bind_of_error hd]
      exact .failed

/-- An item that is no template is refused, however the others are read. -/
theorem cons_refused {fault : TemplateFault} (read : Reader (List Json)) (cs : List Char)
    (remaining : Nat) (ht : Template.ofJson (ν := ν) value = .error fault) :
    Streamed (ν := ν) ((do return value :: (← read) : Reader (List Json)) cs)
      (.error ⟨.refused fault.message, remaining⟩) := by
  cases hr : read cs with
  | error fault =>
      rw [Reader.bind_of_error hr]
      exact .failed
  | ok result =>
      rw [Reader.bind_of_ok hr]
      refine .refused ?_
      rw [List.mapM_cons, ht]
      rfl

end Streamed

theorem itemsUpTo_streamed (style : Reader.Delimited) (depth : Nat) (first : Bool) (count : Nat)
    (cs : List Char) :
    Streamed (ν := ν) (Reader.itemsUpTo style (Reader.value depth) first count cs)
      (Reader.itemsUpTo style (Template.item depth) first count cs) := by
  induction count generalizing first cs with
  | zero => exact .failed
  | succ count ih =>
      rw [Reader.itemsUpTo_succ, Reader.itemsUpTo_succ]
      cases hm : Reader.more style first cs with
      | error fault =>
          rw [Reader.bind_of_error hm, Reader.bind_of_error hm]
          exact .failed
      | ok result =>
          obtain ⟨follows, middle⟩ := result
          rw [Reader.bind_of_ok hm, Reader.bind_of_ok hm]
          cases follows with
          | false => exact .done rfl
          | true =>
              simp only [if_true]
              cases hv : Reader.value depth middle with
              | error fault =>
                  rw [Reader.bind_of_error hv, Reader.bind_of_error (Template.item_of_error hv)]
                  exact .failed
              | ok result =>
                  obtain ⟨value, behind⟩ := result
                  rw [Reader.bind_of_ok hv]
                  cases ht : (Template.ofJson value : Except TemplateFault (Template ν)) with
                  | error fault =>
                      obtain ⟨remaining, hitem⟩ := Template.item_of_refused hv ht
                      rw [Reader.bind_of_error hitem]
                      exact .cons_refused _ behind remaining ht
                  | ok template =>
                      rw [Reader.bind_of_ok (Template.item_of_ok hv ht)]
                      exact (ih false behind).cons ht

theorem list_streamed (depth : Nat) (cs : List Char) :
    Streamed (ν := ν) (Reader.list (Reader.value depth) cs)
      (Reader.list (Template.item depth) cs) :=
  itemsUpTo_streamed _ depth true cs.length cs

/-! ## Whole lists -/

namespace Template

/-- A value is a list if it starts with the bracket of one, and else nothing decodes to a
list. -/
theorem list_cases (cs : List Char) :
    (∃ rest, Reader.value nestingLimit cs =
        (do return Json.array (← Reader.list (Reader.value (nestingLimit - 1))) :
          Reader Json) rest ∧
      list (ν := ν) cs = Reader.list (item (nestingLimit - 1)) rest) ∨
    (∀ values rest, Reader.value nestingLimit cs ≠ .ok (.array values, rest)) ∧
      ∃ fault, list (ν := ν) cs = .error fault := by
  rw [Reader.value_eq, Reader.skipBlank_peek, list, Reader.skipBlank_peek]
  generalize cs.dropWhile Reader.isBlank = start
  generalize start.head? = next
  by_cases hb : next = some '['
  · subst hb
    exact .inl ⟨start.tail, rfl, rfl⟩
  refine .inr ⟨fun values rest hok => ?_, ?_⟩
  · split at hok
    · exact hb rfl
    · have hg : Reader.Gives (do
          Reader.advance
          return Json.object (← Reader.object (Reader.value (nestingLimit - 1))))
          fun value => ∃ members, value = .object members :=
        .after fun _ => .after fun members => .pure ⟨members, rfl⟩
      obtain ⟨members, he⟩ := hg _ _ _ hok
      cases he
    · cases Reader.scalar_gives _ _ _ _ hok
  · split
    · exact absurd rfl hb
    · exact ⟨_, rfl⟩
    · cases hv : Reader.value nestingLimit start with
      | error fault => exact ⟨fault, Reader.bind_of_error hv⟩
      | ok result => exact ⟨_, Reader.bind_of_ok hv⟩

/-- How decoding a list ends: with templates for all values, with a value that is no template,
or where reading the value or finding a list in it ends too. -/
theorem list_outcome (cs : List Char) :
    (∃ values templates rest, Reader.value nestingLimit cs = .ok (.array values, rest) ∧
      values.mapM ofJson = .ok templates ∧ list (ν := ν) cs = .ok (templates, rest)) ∨
    (∃ values fault rest remaining, Reader.value nestingLimit cs = .ok (.array values, rest) ∧
      values.mapM (ofJson (ν := ν)) = .error fault ∧
        list (ν := ν) cs = .error ⟨.refused fault.message, remaining⟩) ∨
    (∀ values rest, Reader.value nestingLimit cs ≠ .ok (.array values, rest)) ∧
      ∃ fault, list (ν := ν) cs = .error fault := by
  rcases list_cases (ν := ν) cs with ⟨start, hvalue, hlist⟩ | hother
  · have hs := list_streamed (ν := ν) (nestingLimit - 1) start
    rw [hvalue, hlist]
    generalize hr : Reader.list (Reader.value (nestingLimit - 1)) start = outcome at hs
    generalize hd : Reader.list (item (nestingLimit - 1)) start = outcome' at hs
    cases hs with
    | done h => exact .inl ⟨_, _, _, Reader.bind_of_ok hr, h, rfl⟩
    | refused h => exact .inr (.inl ⟨_, _, _, _, Reader.bind_of_ok hr, h, rfl⟩)
    | failed =>
        rw [Reader.bind_of_error hr]
        exact .inr (.inr ⟨fun _ _ => nofun, _, rfl⟩)
  · exact .inr (.inr hother)

theorem list_eq_ok_iff {cs rest : List Char} {templates : List (Template ν)} :
    list cs = .ok (templates, rest) ↔ ∃ values,
      Reader.value nestingLimit cs = .ok (.array values, rest) ∧
        values.mapM ofJson = .ok templates := by
  constructor
  · intro hok
    rcases list_outcome (ν := ν) cs with ⟨values, others, behind, hvalue, hm, hlist⟩ |
      ⟨values, fault, behind, remaining, -, -, hlist⟩ | ⟨-, fault, hlist⟩
    · cases hlist.symm.trans hok
      exact ⟨values, hvalue, hm⟩
    · cases hlist.symm.trans hok
    · cases hlist.symm.trans hok
  · rintro ⟨values, hok, hm⟩
    rcases list_outcome (ν := ν) cs with ⟨others, converted, behind, hvalue, ho, hlist⟩ |
      ⟨others, fault, behind, remaining, hvalue, ho, -⟩ | ⟨hvalue, -⟩
    · cases hvalue.symm.trans hok
      cases ho.symm.trans hm
      exact hlist
    · cases hvalue.symm.trans hok
      cases ho.symm.trans hm
    · exact absurd hok (hvalue values rest)

/-- The first item that is no template is refused, once all the items can be read. -/
theorem list_of_refused {cs rest : List Char} {values : List Json} {fault : TemplateFault}
    (hok : Reader.value nestingLimit cs = .ok (.array values, rest))
    (hm : values.mapM (ofJson (ν := ν)) = .error fault) :
    ∃ remaining, list (ν := ν) cs = .error ⟨.refused fault.message, remaining⟩ := by
  rcases list_outcome (ν := ν) cs with ⟨others, templates, behind, hvalue, ho, -⟩ |
    ⟨others, first, behind, remaining, hvalue, ho, hlist⟩ | ⟨hvalue, -⟩
  · cases hvalue.symm.trans hok
    cases ho.symm.trans hm
  · cases hvalue.symm.trans hok
    cases ho.symm.trans hm
    exact ⟨remaining, hlist⟩
  · exact absurd hok (hvalue values rest)

/-! ## Whole texts -/

theorem decodeList_eq_ok_iff {text : String} {templates : List (Template ν)} :
    decodeList text = .ok templates ↔ ∃ values, Json.parse text = .ok (.array values) ∧
      List.Forall₂ (fun value template => ofJson value = .ok template) values templates := by
  rw [decodeList, Reader.runOn_finish_eq_ok_iff]
  constructor
  · rintro ⟨rest, last, hlist, hfinish⟩
    obtain ⟨values, hvalue, hm⟩ := list_eq_ok_iff.mp hlist
    exact ⟨values, Reader.runOn_finish_eq_ok_iff.mpr ⟨rest, last, hvalue, hfinish⟩,
      mapM_eq_ok_iff.mp hm⟩
  · rintro ⟨values, hparse, hf⟩
    obtain ⟨rest, last, hvalue, hfinish⟩ := Reader.runOn_finish_eq_ok_iff.mp hparse
    exact ⟨rest, last, list_eq_ok_iff.mpr ⟨values, hvalue, mapM_eq_ok_iff.mpr hf⟩, hfinish⟩

theorem decodeList_of_refused {text : String} {before after : List Json} {value : Json}
    {fault : TemplateFault} (hparse : Json.parse text = .ok (.array (before ++ value :: after)))
    (hb : ∀ earlier ∈ before, ∃ template : Template ν, ofJson earlier = .ok template)
    (hv : ofJson (ν := ν) value = .error fault) :
    ∃ bytes ≤ text.utf8ByteSize, decodeList (ν := ν) text =
      .error (.refusal fault.message (some ((⟨1, 0⟩ : Position).advance bytes text.toList))) := by
  obtain ⟨rest, last, hvalue, hfinish⟩ := Reader.runOn_finish_eq_ok_iff.mp hparse
  obtain ⟨remaining, hlist⟩ := list_of_refused hvalue (mapM_eq_error hb hv)
  exact ⟨text.utf8ByteSize - remaining, Nat.sub_le _ _,
    Reader.runOn_of_error (Reader.bind_of_error hlist)⟩

/-- Decoding a list from text agrees with reading the text and converting the items. It goes
through on the same texts with the same templates. Where the text is a list with an item that
is no template, it fails with the fault of the first such item, at a place in the text. A place
at the end of that fault's own text is taken for the place of the failure. -/
theorem decodeList_agrees (text : String) :
    (∀ templates : List (Template ν), decodeList text = .ok templates ↔
      ∃ values, Json.parse text = .ok (.array values) ∧
        List.Forall₂ (fun value template => ofJson value = .ok template) values templates) ∧
    ∀ before value after fault, Json.parse text = .ok (.array (before ++ value :: after)) →
      (∀ earlier ∈ before, ∃ template : Template ν, ofJson earlier = .ok template) →
      ofJson (ν := ν) value = .error fault →
      ∃ error, decodeList (ν := ν) text = .error error ∧
        ∃ bytes ≤ text.utf8ByteSize,
          let place := (⟨1, 0⟩ : Position).advance bytes text.toList
          ((∀ words position, ¬ EndsInPlace fault.message.toList words position) →
            error.message = fault.message ++ place.text) ∧
          ∀ words position, EndsInPlace fault.message.toList words position →
            error.message =
              String.ofList words ++ (if position.line = 0 then place else position).text := by
  refine ⟨fun _ => decodeList_eq_ok_iff, fun before value after fault hparse hb hv => ?_⟩
  obtain ⟨bytes, hbytes, hdecode⟩ := decodeList_of_refused hparse hb hv
  exact ⟨_, hdecode, bytes, hbytes, Error.message_refusal_of_plain _,
    fun _ _ => Error.message_refusal_of_endsInPlace _⟩

set_option maxRecDepth 4000 in
theorem decodeList_of_null :
    let text := "[\x7b\"p\":\"one\"\x7d, null, true]"
    let first : Template NodeId := .element "p" (.text "one")
    Json.parse text = .ok (.array ([.object [("p", .string "one")]] ++ .null :: [.bool true])) ∧
      ofJson (.object [("p", .string "one")]) = .ok first ∧
      ∃ error place, decodeList (ν := NodeId) text = .error error ∧ error.message =
        "template must be an object with one selector key, found null" ++ Position.text place := by
  intro text first
  have hparse : Json.parse text =
      .ok (.array ([.object [("p", .string "one")]] ++ .null :: [.bool true])) := by cbv
  have hfirst : ofJson (.object [("p", .string "one")]) = .ok first := rfl
  have hb : ∀ earlier ∈ [Json.object [("p", .string "one")]], ∃ template : Template NodeId,
      ofJson earlier = .ok template := by
    rw [List.forall_mem_singleton]
    exact ⟨first, hfirst⟩
  have hplain : Position.split? (TemplateFault.notAnObject .null).message.toList = none := by
    decide +kernel
  obtain ⟨error, herror, bytes, -, hmessage, -⟩ :=
    (decodeList_agrees text).2 _ _ _ (.notAnObject .null) hparse hb rfl
  refine ⟨hparse, hfirst, error, _, herror, hmessage fun words position hp => ?_⟩
  rw [Position.split?_eq_some_iff.mpr hp] at hplain
  cases hplain

set_option maxRecDepth 4000 in
/-- The last key of an object with several keys ends the text of its fault. If the key ends in
a place, that place is cut off before the place of the failure is put there. -/
theorem decodeList_of_placed_key :
    let text := "[\x7b\"x\":null,\" at line 0 column 7\":null\x7d  , \x7b\x7d]"
    let value : Json := .object [("x", .null), (" at line 0 column 7", .null)]
    let fault : TemplateFault := .multipleKeys ["x", " at line 0 column 7"]
    Json.parse text = .ok (.array [value, .object []]) ∧
      ofJson (ν := NodeId) value = .error fault ∧
      ∃ error, decodeList (ν := NodeId) text = .error error ∧ error.message =
        "template object must have exactly one selector key, found 2: x,  at line 1 column 42" ∧
        ∀ place : Position, error.message ≠ fault.message ++ place.text := by
  intro text value fault
  let error : Json.Error :=
    ⟨.refused "template object must have exactly one selector key, found 2: x, ", some ⟨1, 42⟩⟩
  have herror : (decodeList (ν := NodeId) text).map (fun _ => ()) = .error error := by
    decide +kernel
  have hdecode : decodeList (ν := NodeId) text = .error error := by
    cases h : decodeList (ν := NodeId) text with
    | ok templates =>
        rw [h] at herror
        cases herror
    | error fault =>
        rw [h] at herror
        exact congrArg Except.error (Except.error.inj herror)
  refine ⟨by cbv, rfl, error, hdecode, by decide +kernel, fun place he => ?_⟩
  have hp : fault.message.toList <+: error.message.toList := by
    rw [he, String.toList_append]
    exact List.prefix_append _ _
  exact absurd hp (by decide +kernel)

end Template

end TemplateTree
