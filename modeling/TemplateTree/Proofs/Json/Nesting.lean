import TemplateTree.Proofs.Json.Reading

/-! # Nesting of values

A reader of values counts the containers that it opens, so that no value that it gives nests
deeper than it may. -/

namespace TemplateTree

theorem Keyed.eq_or_mem_of_mem_put {β : Type} {key : String} {value : β} {entry : String × β}
    {list : List (String × β)} (h : entry ∈ put key value list) :
    entry = (key, value) ∨ entry ∈ list := by
  induction list with
  | nil => exact .inl (List.mem_singleton.mp h)
  | cons first rest ih =>
      rw [put] at h
      split at h
      · next hk =>
          rw [← hk]
          exact (List.mem_cons.mp h).imp_right (List.mem_cons_of_mem first)
      · rcases List.mem_cons.mp h with rfl | h
        · exact .inr List.mem_cons_self
        · exact (ih h).imp_right (List.mem_cons_of_mem first)

namespace Json

/-- A value with at most so many containers inside each other. -/
inductive NestsWithin : Nat → Json → Prop where
  | scalar {limit : Nat} {value : Json} (h : value.isContainer = false) : NestsWithin limit value
  | array {limit : Nat} {items : List Json} (h : ∀ item ∈ items, NestsWithin limit item) :
      NestsWithin (limit + 1) (.array items)
  | object {limit : Nat} {members : List (String × Json)}
      (h : ∀ entry ∈ members, NestsWithin limit entry.2) :
      NestsWithin (limit + 1) (.object members)

namespace Reader

variable {α β : Type}

/-- Whatever a reader gives satisfies `post`. -/
def Gives (reader : Reader α) (post : α → Prop) : Prop :=
  ∀ cs a rest, reader cs = .ok (a, rest) → post a

namespace Gives

variable {reader : Reader α} {post : α → Prop}

theorem pure {a : α} (h : post a) : (Pure.pure a : Reader α).Gives post := by
  intro _ _ _ hr
  cases hr
  exact h

theorem failAfter (reason : Reason) : (Reader.failAfter reason : Reader α).Gives post := by
  intro _ _ _ hr
  cases hr

theorem failAt (reason : Reason) : (Reader.failAt reason : Reader α).Gives post := by
  intro _ _ _ hr
  cases hr

theorem bind {next : α → Reader β} {post' : β → Prop} (h : reader.Gives post)
    (hn : ∀ a, post a → (next a).Gives post') : (reader >>= next).Gives post' := by
  intro cs b rest hr
  obtain ⟨a, middle, ha, hb⟩ := exists_of_bind hr
  exact hn a (h cs a middle ha) middle b rest hb

/-- What the first reader gives does not matter. -/
theorem after {next : α → Reader β} {post' : β → Prop} (hn : ∀ a, (next a).Gives post') :
    (reader >>= next).Gives post' := by
  intro cs b rest hr
  obtain ⟨a, middle, -, hb⟩ := exists_of_bind hr
  exact hn a middle b rest hb

end Gives

variable {reader : Reader α} {post : α → Prop}

theorem itemsUpTo_gives (h : reader.Gives post) (style : Delimited) (first : Bool) (count : Nat) :
    (itemsUpTo style reader first count).Gives fun xs => ∀ x ∈ xs, post x := by
  induction count generalizing first with
  | zero => exact .failAfter _
  | succ count ih =>
      rw [itemsUpTo_succ]
      refine .after fun follows => ?_
      cases follows with
      | false => exact .pure fun _ hx => nomatch hx
      | true =>
          refine h.bind fun x hx => (ih false).bind fun xs hxs => .pure ?_
          exact List.forall_mem_cons.mpr ⟨hx, hxs⟩

theorem list_gives (h : reader.Gives post) : (list reader).Gives fun xs => ∀ x ∈ xs, post x :=
  .after fun _ => itemsUpTo_gives h _ _ _

theorem member_gives (h : reader.Gives post) :
    (member reader).Gives fun entry => post entry.2 := by
  unfold member
  refine .after fun next => ?_
  split
  all_goals
    refine .after fun _ => .after fun key => .after fun _ => .after fun next => ?_
    split
  all_goals exact .after fun _ => h.bind fun _ hv => .pure hv

theorem object_gives (h : reader.Gives post) :
    (object reader).Gives fun members => ∀ entry ∈ members, post entry.2 := by
  have hitems : (items objectStyle (member reader)).Gives fun members =>
      ∀ entry ∈ members, post entry.2 :=
    .after fun _ => itemsUpTo_gives (member_gives h) _ _ _
  refine hitems.bind fun members hm => .pure ?_
  -- A member with a new key is put behind those that are kept.
  have hkept : ∀ entry ∈ ([] : List (String × α)), post entry.2 := List.forall_mem_nil _
  generalize ([] : List (String × α)) = kept at hkept ⊢
  induction members generalizing kept with
  | nil => exact hkept
  | cons entry rest ih =>
      rw [List.forall_mem_cons] at hm
      refine ih hm.2 _ fun other ho => ?_
      rcases Keyed.eq_or_mem_of_mem_put ho with rfl | ho
      · exact hm.1
      · exact hkept other ho

theorem scalar_gives (next : Option Char) : (scalar next).Gives (·.isContainer = false) := by
  unfold scalar
  split
  · exact .failAfter _
  · exact .after fun _ => .after fun _ => .pure rfl
  · exact .after fun _ => .after fun _ => .pure rfl
  · exact .after fun _ => .after fun _ => .pure rfl
  · exact .after fun _ => .after fun _ => .pure rfl
  · exact .after fun _ => .after fun _ => .pure rfl
  · split
    · exact .after fun _ => .pure rfl
    · exact .failAt _

theorem container_gives {depth : Nat} {inside : Nat → Reader Json} {post : Json → Prop}
    (h : ∀ less, depth = less + 1 → (inside less).Gives post) :
    (container depth inside).Gives post := by
  cases depth with
  | zero => exact .failAt _
  | succ less => exact .after fun _ => h less rfl

theorem value_gives (depth : Nat) : (value depth).Gives (NestsWithin depth) := by
  induction depth using Nat.strongRecOn with
  | ind depth ih =>
      rw [value_eq]
      refine .after fun _ => .after fun next => ?_
      split
      · refine container_gives fun less hless => ?_
        subst hless
        exact (list_gives (ih less (Nat.lt_succ_self less))).bind fun _ h => .pure (.array h)
      · refine container_gives fun less hless => ?_
        subst hless
        exact (object_gives (ih less (Nat.lt_succ_self less))).bind fun _ h => .pure (.object h)
      · exact fun _ _ _ hr => .scalar (scalar_gives _ _ _ _ hr)

end Reader

/-- A text that can be read nests at most `nestingLimit` containers inside each other. -/
theorem nestsWithin_of_parse {text : String} {value : Json} (h : parse text = .ok value) :
    NestsWithin nestingLimit value := by
  obtain ⟨rest, _, hr, -⟩ := Reader.runOn_finish_eq_ok_iff.mp h
  exact Reader.value_gives nestingLimit _ _ _ hr

end Json

end TemplateTree
