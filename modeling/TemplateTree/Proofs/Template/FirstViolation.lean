import Mathlib.Data.List.Basic

/-! # First violations

A place in a tree is the list of the positions that lead to it. Document order is the
lexicographic order of places, in which what holds something comes before what it holds. Going
through the entries of a row and stopping at the first fault reports the first violation. -/

namespace TemplateTree

variable {α β σ φ : Type}

/-- A place is another one or comes before it. -/
def NotAfter : List Nat → List Nat → Prop
  | [], _ => True
  | _ :: _, [] => False
  | i :: place, j :: other => i < j ∨ i = j ∧ NotAfter place other

/-- The fault at the first place of all. -/
def IsFirst (violates : List Nat → φ → Prop) (fault : φ) : Prop :=
  ∃ place, violates place fault ∧ ∀ other later, violates other later → NotAfter place other

/-- An outcome is good without violations, and else the fault at the first of them. -/
def ReportsFirst (violates : List Nat → φ → Prop) : Except φ α → Prop
  | .ok _ => ∀ place fault, ¬ violates place fault
  | .error fault => IsFirst violates fault

/-- A row is violated where one of its entries is. -/
def InRow (violates : α → List Nat → φ → Prop) (row : List α) (place : List Nat)
    (fault : φ) : Prop :=
  ∃ i entry inner, row[i]? = some entry ∧ violates entry inner fault ∧ place = i :: inner

variable {violates : α → List Nat → φ → Prop}

theorem inRow_cons {entry : α} {row : List α} {place : List Nat} {fault : φ} :
    InRow violates (entry :: row) place fault ↔
      (∃ inner, violates entry inner fault ∧ place = 0 :: inner) ∨
        ∃ i inner, InRow violates row (i :: inner) fault ∧ place = (i + 1) :: inner := by
  constructor
  · rintro ⟨i, other, inner, hi, hv, rfl⟩
    cases i with
    | zero => exact .inl ⟨inner, Option.some.inj hi ▸ hv, rfl⟩
    | succ i => exact .inr ⟨i, inner, ⟨i, other, inner, hi, hv, rfl⟩, rfl⟩
  · rintro (⟨inner, hv, rfl⟩ | ⟨i, inner, ⟨j, other, _, hi, hv, heq⟩, rfl⟩)
    · exact ⟨0, entry, inner, rfl, hv, rfl⟩
    · obtain ⟨rfl, rfl⟩ := List.cons.inj heq
      exact ⟨i + 1, other, inner, hi, hv, rfl⟩

theorem forall_not_inRow_iff {row : List α} :
    (∀ place fault, ¬ InRow violates row place fault) ↔
      ∀ entry ∈ row, ∀ place fault, ¬ violates entry place fault := by
  constructor
  · intro h entry he place fault hv
    obtain ⟨i, hi⟩ := List.mem_iff_getElem?.mp he
    exact h (i :: place) fault ⟨i, entry, place, hi, hv, rfl⟩
  · rintro h _ fault ⟨i, entry, inner, hi, hv, rfl⟩
    exact h entry (List.mem_of_getElem? hi) inner fault hv

theorem IsFirst.of_head {entry : α} {fault : φ} (h : IsFirst (violates entry) fault)
    (row : List α) : IsFirst (InRow violates (entry :: row)) fault := by
  obtain ⟨place, hv, hfirst⟩ := h
  refine ⟨0 :: place, inRow_cons.mpr (.inl ⟨place, hv, rfl⟩), fun other later ho => ?_⟩
  rcases inRow_cons.mp ho with ⟨inner, hinner, rfl⟩ | ⟨i, inner, -, rfl⟩
  · exact .inr ⟨rfl, hfirst inner later hinner⟩
  · exact .inl (Nat.succ_pos i)

theorem IsFirst.of_tail {entry : α} {row : List α} {fault : φ}
    (hentry : ∀ place fault, ¬ violates entry place fault)
    (h : IsFirst (InRow violates row) fault) : IsFirst (InRow violates (entry :: row)) fault := by
  obtain ⟨place, hv, hfirst⟩ := h
  obtain ⟨i, _, inner, -, -, rfl⟩ := id hv
  refine ⟨(i + 1) :: inner, inRow_cons.mpr (.inr ⟨i, inner, hv, rfl⟩), fun other later ho => ?_⟩
  rcases inRow_cons.mp ho with ⟨inner', hinner, rfl⟩ | ⟨j, inner', hj, rfl⟩
  · exact absurd hinner (hentry inner' later)
  · exact (hfirst (j :: inner') later hj).imp Nat.succ_lt_succ (And.imp_left (congrArg (· + 1)))

namespace ReportsFirst

theorem congr {v w : List Nat → φ → Prop} (h : ∀ place fault, v place fault ↔ w place fault)
    {outcome : Except φ α} (ho : ReportsFirst v outcome) : ReportsFirst w outcome := by
  have hvw : v = w := funext fun place => funext fun fault => propext (h place fault)
  exact hvw ▸ ho

theorem map_iff {v : List Nat → φ → Prop} {outcome : Except φ α} {f : α → β} :
    ReportsFirst v (do return f (← outcome)) ↔ ReportsFirst v outcome := by
  cases outcome with
  | ok a => exact Iff.rfl
  | error fault => exact Iff.rfl

/-- One entry after the other. -/
theorem bind {entry : α} {row : List α} {first : Except φ β} {next : β → Except φ σ}
    (hfirst : ReportsFirst (violates entry) first)
    (hnext : ∀ b, ReportsFirst (InRow violates row) (next b)) :
    ReportsFirst (InRow violates (entry :: row)) (first >>= next) := by
  cases first with
  | error fault => exact hfirst.of_head row
  | ok b =>
      have hb := hnext b
      show ReportsFirst _ (next b)
      cases hn : next b with
      | error fault =>
          rw [hn] at hb
          exact IsFirst.of_tail hfirst hb
      | ok s =>
          rw [hn] at hb
          intro place fault hv
          rcases inRow_cons.mp hv with ⟨inner, hinner, -⟩ | ⟨i, inner, hinner, -⟩
          · exact hfirst inner fault hinner
          · exact hb _ fault hinner

theorem single (violates : α → List Nat → φ → Prop) {entry : α} {outcome : Except φ β}
    (h : ReportsFirst (violates entry) outcome) (f : β → σ) :
    ReportsFirst (InRow violates [entry]) (do return f (← outcome)) :=
  h.bind fun _ => forall_not_inRow_iff.mpr (List.forall_mem_nil _)

theorem mapM {f : α → Except φ β} {row : List α}
    (h : ∀ entry ∈ row, ReportsFirst (violates entry) (f entry)) :
    ReportsFirst (InRow violates row) (row.mapM f) := by
  induction row with
  | nil => exact forall_not_inRow_iff.mpr (List.forall_mem_nil _)
  | cons entry row ih =>
      rw [List.forall_mem_cons] at h
      rw [List.mapM_cons]
      exact h.1.bind fun b => map_iff.mpr (ih h.2)

end ReportsFirst

end TemplateTree
