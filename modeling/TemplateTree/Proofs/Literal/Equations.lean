import TemplateTree.Literal.Code

/-! Computation rules for the code of a literal. -/

namespace TemplateTree.Literal

theorem Key.isSelector_eq (key : String) : Key.isSelector key = Selector.hasMarker key :=
  rfl

/-- Entries are told apart in literals as in JSON. -/
theorem entryKind_eq (key : String) (value : Literal) :
    entryKind key value = EntryKind.ofKey key value.isContainer := by
  rw [entryKind, EntryKind.ofKey, Key.isSelector_eq]
  rfl

/-! ## Containers -/

theorem templateCode_single (selector : StringConstant) (value : Literal) :
    templateCode (.object [(selector, value)]) =
      (do return .element selector (← contentCode value)) :=
  rfl

theorem contentCode_object (entries : List (StringConstant × Literal)) :
    contentCode (.object entries) = (do return .bag (← bagCode entries)) :=
  rfl

theorem contentCode_list (items : List Literal) :
    contentCode (.list items) = (do return .items (← templateCodes items)) :=
  rfl

theorem templateCodes_cons (item : Literal) (rest : List Literal) :
    templateCodes (item :: rest) =
      (do return (← templateCode item) :: (← templateCodes rest)) :=
  rfl

theorem templateCodes_eq_mapM (items : List Literal) :
    templateCodes items = items.mapM templateCode := by
  induction items with
  | nil => rfl
  | cons item rest ih => rw [templateCodes_cons, List.mapM_cons, ih]

/-! ## Entries of a bag -/

/-- The call that an entry of a bag stands for. -/
def entryCode (entry : StringConstant × Literal) : Except Fault BagCode :=
  match EntryKind.ofKey entry.1.value entry.2.isContainer with
  | .children =>
    match entry.2 with
    | .list items => do return .children (← templateCodes items)
    | other => .error (.childrenNotAList other.kind)
  | .html => do return .html (← textCode htmlKey entry.2)
  | .style => do return .style (← textCode styleKey entry.2)
  | .child => do return .child entry.1 (← contentCode entry.2)
  | .attr => do return .attr entry.1 (← attrCode entry.2)

theorem bagCode_cons (entry : StringConstant × Literal)
    (rest : List (StringConstant × Literal)) :
    bagCode (entry :: rest) = (do return (← entryCode entry) :: (← bagCode rest)) := by
  obtain ⟨key, value⟩ := entry
  rw [entryCode, ← entryKind_eq, bagCode]
  conv => lhs; unfold bagCodeWith
  cases entryKind key.value value with
  | children =>
      cases value with
      | list items =>
          simp only [bind_assoc, pure_bind]
          rfl
      | string | number | bool | null | object | expression => rfl
  | html | style | child | attr =>
      simp only [bind_assoc, pure_bind]
      rfl

end TemplateTree.Literal
