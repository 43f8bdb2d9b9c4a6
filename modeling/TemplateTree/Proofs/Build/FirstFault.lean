import Mathlib.Data.List.Basic

/-! # First faults

Going through a list until an entry is at fault. The first fault decides how that ends. -/

namespace TemplateTree.FirstFault

variable {α β φ : Type} {fault? : β → Option φ} {entry : β} {list : List β} {fault : φ}

/-- How going through a list ends that gives `a` when no entry is at fault. -/
def outcome (fault? : β → Option φ) (list : List β) (a : α) : Except φ α :=
  match list.findSome? fault? with
  | none => .ok a
  | some fault => .error fault

/-- The entries before the first one at fault. -/
def reached (fault? : β → Option φ) (list : List β) : List β :=
  list.takeWhile fun entry => (fault? entry).isNone

theorem outcome_eq_ok {a b : α} (h : .ok a = outcome fault? list b) :
    a = b ∧ list.findSome? fault? = none := by
  unfold outcome at h
  split at h
  · rename_i hn
    exact ⟨Except.ok.inj h, hn⟩
  · cases h

theorem outcome_eq_error {b : α} (h : .error fault = outcome fault? list b) :
    list.findSome? fault? = some fault := by
  unfold outcome at h
  split at h
  · cases h
  · rename_i hs
    rw [hs, Except.error.inj h]

theorem outcome_of_none (h : list.findSome? fault? = none) (a : α) :
    outcome fault? list a = .ok a := by
  rw [outcome, h]

theorem outcome_of_some (h : list.findSome? fault? = some fault) (a : α) :
    outcome fault? list a = .error fault := by
  rw [outcome, h]

theorem outcome_cons_of_none (h : fault? entry = none) (list : List β) (a : α) :
    outcome fault? (entry :: list) a = outcome fault? list a := by
  rw [outcome, List.findSome?_cons, h]
  rfl

theorem outcome_cons_of_some (h : fault? entry = some fault) (list : List β) (a : α) :
    outcome fault? (entry :: list) a = .error fault := by
  rw [outcome, List.findSome?_cons, h]

theorem reached_cons_of_none (h : fault? entry = none) (list : List β) :
    reached fault? (entry :: list) = entry :: reached fault? list := by
  rw [reached, List.takeWhile_cons, h]
  rfl

theorem reached_cons_of_some (h : fault? entry = some fault) (list : List β) :
    reached fault? (entry :: list) = [] := by
  rw [reached, List.takeWhile_cons, h]
  rfl

theorem reached_append_of_none (h : list.findSome? fault? = none) (rest : List β) :
    reached fault? (list ++ rest) = list ++ reached fault? rest := by
  rw [List.findSome?_eq_none_iff] at h
  exact List.takeWhile_append_of_pos fun entry he => by rw [h entry he]; rfl

theorem reached_eq_self (h : list.findSome? fault? = none) : reached fault? list = list := by
  have hr := reached_append_of_none h []
  rw [List.append_nil] at hr
  exact hr.trans (List.append_nil _)

theorem reached_append_of_some (h : list.findSome? fault? = some fault) (rest : List β) :
    reached fault? (list ++ rest) = reached fault? list := by
  obtain ⟨before, entry, after, rfl, he, hb⟩ := List.findSome?_eq_some_iff.mp h
  rw [← List.findSome?_eq_none_iff] at hb
  rw [List.append_assoc, reached_append_of_none hb, reached_append_of_none hb, List.cons_append,
    reached_cons_of_some he, reached_cons_of_some he]

theorem outcome_append_of_none (h : list.findSome? fault? = none) (rest : List β) (a : α) :
    outcome fault? (list ++ rest) a = outcome fault? rest a := by
  rw [outcome, List.findSome?_append, h]
  rfl

theorem outcome_append_of_some (h : list.findSome? fault? = some fault)
    (rest : List β) (a : α) : outcome fault? (list ++ rest) a = .error fault := by
  rw [outcome, List.findSome?_append, h]
  rfl

end TemplateTree.FirstFault
