import TemplateTree.Proofs.Build.Plan
import TemplateTree.Proofs.Build.Stop

/-! # The order of calls

Elements are created from the top down and appended from the bottom up. What surrounds the
calls for an element does not touch anything below it. -/

namespace TemplateTree

namespace Call

/-- The nodes that a call is about. -/
def nodes : Call → List Nat
  | create node _ | setAttribute node _ _ | setText node _ => [node]
  | append parent child => [parent, child]

/-- The node that a call appends to another one. -/
def appended? : Call → Option Nat
  | append _ child => some child
  | _ => none

/-- The node that a call appends to this one. -/
def appendedTo? (node : Nat) : Call → Option Nat
  | append parent child => if parent = node then some child else none
  | _ => none

variable {call : Call} {node : Nat}

theorem nodes_of_writesTo (h : call.writesTo node) : call.nodes = [node] := by
  cases call with
  | setAttribute | setText => rw [nodes, eq_of_beq h]
  | create | append => cases h

theorem mem_nodes_of_appended? (h : call.appended? = some node) : node ∈ call.nodes := by
  cases call with
  | append parent child => simpa [nodes] using .inr (Option.some.inj h).symm
  | create | setAttribute | setText => cases h

theorem appendedTo?_of_notMem (h : node ∉ call.nodes) : call.appendedTo? node = none := by
  cases call with
  | append parent child =>
      exact if_neg fun hp : parent = node => h (hp ▸ List.mem_cons_self)
  | create | setAttribute | setText => rfl

end Call

namespace Plan

/-! ## Plans below plans -/

theorem self_mem_elements (plan : Plan) : plan ∈ plan.elements := by
  rw [elements_eq]
  exact List.mem_cons_self

theorem mem_elements_iff {plan sub : Plan} :
    sub ∈ plan.elements ↔ sub = plan ∨ ∃ item ∈ plan.items, sub ∈ item.elements := by
  rw [elements_eq, List.mem_cons, List.mem_flatMap]

theorem number_mem_numbers (plan : Plan) : plan.number ∈ plan.numbers :=
  List.mem_map_of_mem plan.self_mem_elements

theorem numbers_subset_flatMap {items : List Plan} {item : Plan} (hi : item ∈ items) :
    item.numbers ⊆ items.flatMap numbers :=
  fun _ h => List.mem_flatMap_of_mem hi h

theorem elements_sublist {plan sub : Plan} (hs : sub ∈ plan.elements) :
    sub.elements.Sublist plan.elements := by
  induction plan using Plan.induction with
  | element number selector properties items ih =>
      rcases mem_elements_iff.mp hs with rfl | ⟨item, hi, hs⟩
      · exact List.Sublist.refl _
      · have hitem : item.elements.Sublist (items.flatMap elements) :=
          List.sublist_flatten_of_mem (List.mem_map_of_mem hi)
        rw [elements_eq (.element number selector properties items)]
        exact ((ih item hi hs).trans hitem).cons _

/-! Numbers that do not repeat tell the elements apart. -/

variable {plan sub item : Plan}

theorem numbers_subset (hs : sub ∈ plan.elements) : sub.numbers ⊆ plan.numbers :=
  ((elements_sublist hs).map number).subset

theorem nodup_of_mem (hn : plan.numbers.Nodup) (hs : sub ∈ plan.elements) :
    sub.numbers.Nodup :=
  hn.sublist ((elements_sublist hs).map number)

theorem nodup_item (hn : plan.numbers.Nodup) (hi : item ∈ plan.items) : item.numbers.Nodup :=
  nodup_of_mem hn (mem_elements_iff.mpr (.inr ⟨item, hi, item.self_mem_elements⟩))

theorem number_notMem_item (hn : plan.numbers.Nodup) (hi : item ∈ plan.items) :
    plan.number ∉ item.numbers := by
  rw [numbers_eq, List.nodup_cons] at hn
  exact fun h => hn.1 (numbers_subset_flatMap hi h)

theorem number_notMem_of_ne (hn : plan.numbers.Nodup) (hs : sub ∈ plan.elements)
    (hne : sub ≠ plan) : plan.number ∉ sub.numbers := by
  obtain ⟨item, hi, hsub⟩ := (mem_elements_iff.mp hs).resolve_left hne
  exact fun h => number_notMem_item hn hi (numbers_subset hsub h)

/-! ## Calls for a plan -/

theorem nodes_create (plan : Plan) : plan.create.nodes = [plan.number] := by
  cases plan
  rfl

theorem mem_callsOf {parent : Nat} {call : Call} {items : List Plan}
    (h : call ∈ callsOf parent items) :
    ∃ item ∈ items, call ∈ item.calls ∨ call = .append parent item.number := by
  induction items with
  | nil => cases h
  | cons item rest ih =>
      rw [callsOf, List.mem_append, List.mem_cons] at h
      rcases h with h | h | h
      · exact ⟨item, List.mem_cons_self, .inl h⟩
      · exact ⟨item, List.mem_cons_self, .inr h⟩
      · obtain ⟨other, ho, h⟩ := ih h
        exact ⟨other, List.mem_cons_of_mem item ho, h⟩

/-- A call for an element is about the element alone, or one for its items. -/
theorem mem_calls {call : Call} (h : call ∈ plan.calls) :
    call.nodes = [plan.number] ∧ call.appended? = none ∨
      call ∈ callsOf plan.number plan.items := by
  rw [calls_eq, List.mem_cons, List.mem_append] at h
  rcases h with rfl | h | h
  · exact .inl ⟨plan.nodes_create, by cases plan; rfl⟩
  · have hw := writesTo_of_mem_writes h
    exact .inl ⟨Call.nodes_of_writesTo hw, by cases call <;> first | rfl | cases hw⟩
  · exact .inr h

theorem nodes_subset_of_callsOf {parent : Nat} {items : List Plan} {call : Call}
    (h : call ∈ callsOf parent items)
    (hitems : ∀ item ∈ items, ∀ call ∈ item.calls, call.nodes ⊆ item.numbers) :
    call.nodes ⊆ parent :: items.flatMap numbers := by
  obtain ⟨item, hi, h⟩ := mem_callsOf h
  have hsub := numbers_subset_flatMap hi
  rcases h with h | rfl
  · exact List.subset_cons_of_subset parent (List.Subset.trans (hitems item hi call h) hsub)
  · exact List.cons_subset_cons parent
      (List.cons_subset.mpr ⟨hsub item.number_mem_numbers, List.nil_subset _⟩)

/-- The calls for an element stay at it and below. -/
theorem nodes_subset {call : Call} (h : call ∈ plan.calls) : call.nodes ⊆ plan.numbers := by
  induction plan using Plan.induction generalizing call with
  | element number selector properties items ih =>
      rw [numbers_eq]
      rcases mem_calls h with ⟨hnodes, -⟩ | h
      · rw [hnodes]
        exact List.cons_subset_cons _ (List.nil_subset _)
      · exact nodes_subset_of_callsOf h fun item hi _ => ih item hi

/-- While an element is built, nothing appends it. -/
theorem appended?_ne (hn : plan.numbers.Nodup) {call : Call} (h : call ∈ plan.calls) :
    call.appended? ≠ some plan.number := by
  rcases mem_calls h with ⟨-, hnone⟩ | h
  · rw [hnone]
    exact nofun
  · obtain ⟨item, hi, h⟩ := mem_callsOf h
    have hnot := number_notMem_item hn hi
    rcases h with h | rfl
    · exact fun ha => hnot (nodes_subset h (Call.mem_nodes_of_appended? ha))
    · exact fun ha => hnot (Option.some.inj ha ▸ item.number_mem_numbers)

/-- The calls for the items do not write to the element any more. -/
theorem not_writesTo_of_callsOf (hn : plan.numbers.Nodup) {call : Call}
    (h : call ∈ callsOf plan.number plan.items) : ¬ call.writesTo plan.number := by
  intro hw
  obtain ⟨item, hi, h | rfl⟩ := mem_callsOf h
  · have hmem : plan.number ∈ call.nodes := by
      rw [Call.nodes_of_writesTo hw]
      exact List.mem_cons_self
    exact number_notMem_item hn hi (nodes_subset h hmem)
  · cases hw

theorem filterMap_appendedTo?_callsOf {parent : Nat} {items : List Plan}
    (hnot : ∀ item ∈ items, parent ∉ item.numbers) :
    (callsOf parent items).filterMap (Call.appendedTo? parent) = items.map number := by
  induction items with
  | nil => rfl
  | cons item rest ih =>
      obtain ⟨hitem, hrest⟩ := List.forall_mem_cons.mp hnot
      have hcalls : item.calls.filterMap (Call.appendedTo? parent) = [] :=
        List.filterMap_eq_nil_iff.mpr fun call h =>
          Call.appendedTo?_of_notMem fun hm => hitem (nodes_subset h hm)
      have hself : (Call.append parent item.number).appendedTo? parent = some item.number :=
        if_pos rfl
      rw [callsOf, List.filterMap_append, hcalls, List.filterMap_cons_some hself, ih hrest]
      rfl

/-- An element gets its items in their order. -/
theorem filterMap_appendedTo?_calls (hn : plan.numbers.Nodup) :
    plan.calls.filterMap (Call.appendedTo? plan.number) = plan.items.map number := by
  have hcreate : plan.create.appendedTo? plan.number = none := by
    cases plan
    rfl
  have hwrites : plan.writes.filterMap (Call.appendedTo? plan.number) = [] := by
    rw [List.filterMap_eq_nil_iff]
    intro call h
    have hw := writesTo_of_mem_writes h
    cases call with
    | setAttribute | setText => rfl
    | create | append => cases hw
  rw [calls_eq, List.filterMap_cons_none hcreate, List.filterMap_append, hwrites,
    List.nil_append, filterMap_appendedTo?_callsOf fun _ => number_notMem_item hn]

/-! ## What surrounds the calls for an element -/

/-- What is done before an item is begun, and after it has been appended, does not touch it. -/
theorem exists_around_item (hn : plan.numbers.Nodup) (hi : item ∈ plan.items) :
    ∃ before after,
      plan.calls = before ++ (item.calls ++ .append plan.number item.number :: after) ∧
      ∀ call ∈ before ++ after, call.nodes.Disjoint item.numbers := by
  have hnot := number_notMem_item hn hi
  obtain ⟨left, right, hitems⟩ := List.append_of_mem hi
  rw [numbers_eq, List.nodup_cons, hitems, List.flatMap_append, List.flatMap_cons,
    List.nodup_append', List.nodup_append', List.disjoint_append_right] at hn
  obtain ⟨-, -, ⟨-, -, hright⟩, hleft, -⟩ := hn
  refine ⟨plan.create :: (plan.writes ++ callsOf plan.number left), callsOf plan.number right,
    ?_, ?_⟩
  · rw [calls_eq, hitems, callsOf_append, callsOf, List.cons_append, List.append_assoc]
  · have hself : [plan.number].Disjoint item.numbers := List.singleton_disjoint.mpr hnot
    rintro call hc
    rw [List.mem_append, List.mem_cons, List.mem_append] at hc
    rcases hc with (rfl | hc | hc) | hc
    · rwa [nodes_create]
    · rwa [Call.nodes_of_writesTo (writesTo_of_mem_writes hc)]
    · exact List.disjoint_of_subset_left (nodes_subset_of_callsOf hc fun _ _ _ => nodes_subset)
        (List.disjoint_cons_left.mpr ⟨hnot, hleft⟩)
    · exact List.disjoint_of_subset_left (nodes_subset_of_callsOf hc fun _ _ _ => nodes_subset)
        (List.disjoint_cons_left.mpr ⟨hnot, List.disjoint_comm.mp hright⟩)

/-- All calls about an element other than the root, or about anything below it, stand in a row
that ends when the element is appended to the one it is an item of. -/
theorem exists_around (hn : plan.numbers.Nodup) (hs : sub ∈ plan.elements) (hne : sub ≠ plan) :
    ∃ parent ∈ plan.elements, sub ∈ parent.items ∧ ∃ before after,
      plan.calls = before ++ (sub.calls ++ .append parent.number sub.number :: after) ∧
      ∀ call ∈ before ++ after, call.nodes.Disjoint sub.numbers := by
  induction plan using Plan.induction with
  | element number selector properties items ih =>
      obtain ⟨item, hi, hsub⟩ := (mem_elements_iff.mp hs).resolve_left hne
      obtain ⟨first, last, hcalls, hapart⟩ := exists_around_item hn hi
      by_cases heq : sub = item
      · subst heq
        exact ⟨_, self_mem_elements _, hi, first, last, hcalls, hapart⟩
      · have hitem := nodup_item hn hi
        obtain ⟨parent, hp, hchild, before, after, hinner, haround⟩ := ih item hi hitem hsub heq
        refine ⟨parent, mem_elements_iff.mpr (.inr ⟨item, hi, hp⟩), hchild, first ++ before,
          after ++ .append number item.number :: last, ?_, ?_⟩
        · rw [hcalls, hinner]
          simp only [List.append_assoc, List.cons_append]
          rfl
        · have hwithin := numbers_subset hsub
          have htop : number ∉ sub.numbers := number_notMem_of_ne hn hs hne
          have hroot : item.number ∉ sub.numbers := number_notMem_of_ne hitem hsub heq
          intro call hc
          simp only [List.mem_append, List.mem_cons] at hc
          rcases hc with (hc | hc) | hc | rfl | hc
          · exact List.disjoint_of_subset_right hwithin (hapart call (List.mem_append_left _ hc))
          · exact haround call (List.mem_append_left _ hc)
          · exact haround call (List.mem_append_right _ hc)
          · exact List.disjoint_cons_left.mpr ⟨htop, List.singleton_disjoint.mpr hroot⟩
          · exact List.disjoint_of_subset_right hwithin (hapart call (List.mem_append_right _ hc))

/-- Before an element is begun, nothing is done to it. After it is finished, nothing is written
or appended to it any more. -/
theorem exists_surround (hn : plan.numbers.Nodup) (hs : sub ∈ plan.elements) :
    ∃ before after, plan.calls = before ++ (sub.calls ++ after) ∧
      (∀ call ∈ before, sub.number ∉ call.nodes) ∧
      ∀ call ∈ after, ¬ call.writesTo sub.number ∧ call.appendedTo? sub.number = none := by
  by_cases heq : sub = plan
  · subst heq
    exact ⟨[], [], (List.append_nil _).symm, List.forall_mem_nil _, List.forall_mem_nil _⟩
  · obtain ⟨parent, hp, hi, before, after, hcalls, hapart⟩ := exists_around hn hs heq
    have hself := sub.number_mem_numbers
    have hparent : parent.number ≠ sub.number := fun h =>
      number_notMem_item (nodup_of_mem hn hp) hi (h ▸ hself)
    refine ⟨before, _, hcalls, fun call hc hm => hapart call (List.mem_append_left _ hc) hm hself,
      List.forall_mem_cons.mpr ⟨⟨Bool.false_ne_true, if_neg hparent⟩, fun call hc => ?_⟩⟩
    have hnot : sub.number ∉ call.nodes := fun hm =>
      hapart call (List.mem_append_right _ hc) hm hself
    refine ⟨fun hw => hnot ?_, Call.appendedTo?_of_notMem hnot⟩
    rw [Call.nodes_of_writesTo hw]
    exact List.mem_cons_self

/-- An element other than the root is appended once, and nothing after that is about it or about
what lies below it. -/
theorem exists_append (hn : plan.numbers.Nodup) (hs : sub ∈ plan.elements) (hne : sub ≠ plan) :
    ∃ parent ∈ plan.elements, sub ∈ parent.items ∧ ∃ before after,
      plan.calls = before ++ .append parent.number sub.number :: after ∧
      (∀ call ∈ before ++ after, call.appended? ≠ some sub.number) ∧
      ∀ call ∈ after, call.nodes.Disjoint sub.numbers := by
  obtain ⟨parent, hp, hi, before, after, hcalls, hapart⟩ := exists_around hn hs hne
  have hafter : ∀ call ∈ after, call.nodes.Disjoint sub.numbers :=
    fun call hc => hapart call (List.mem_append_right _ hc)
  refine ⟨parent, hp, hi, before ++ sub.calls, after, by rw [hcalls, List.append_assoc],
    fun call hc => ?_, hafter⟩
  have houter (hc : call ∈ before ++ after) : call.appended? ≠ some sub.number :=
    fun ha => hapart call hc (Call.mem_nodes_of_appended? ha) sub.number_mem_numbers
  rw [List.mem_append, List.mem_append] at hc
  rcases hc with (hc | hc) | hc
  · exact houter (List.mem_append_left _ hc)
  · exact appended?_ne (nodup_of_mem hn hs) hc
  · exact houter (List.mem_append_right _ hc)

/-! ## The order as a whole -/

/-- How the calls of a build stand to each other. -/
structure Orders (plan : Plan) (calls : List Call) : Prop where
  /-- The elements are created in document order. -/
  created : calls.filter Call.isCreate = plan.elements.map create
  root : ∀ call ∈ calls, call.appended? ≠ some plan.number
  /-- Every other element is appended once, to the element that it is an item of. -/
  appended : ∀ sub ∈ plan.elements, sub.number ≠ plan.number →
    ∃ parent ∈ plan.elements, sub ∈ parent.items ∧
      calls.filter (fun call => call.appended? = some sub.number) =
        [.append parent.number sub.number]
  items : ∀ sub ∈ plan.elements,
    calls.filterMap (Call.appendedTo? sub.number) = sub.items.map number
  /-- All that is written to an element is written right after it has been created. -/
  written : ∀ sub ∈ plan.elements, ∃ before after,
    calls = before ++ sub.create :: (sub.writes ++ after) ∧
      (∀ call ∈ before, sub.number ∉ call.nodes) ∧ ∀ call ∈ after, ¬ call.writesTo sub.number
  /-- An element that is appended is complete, and so is all below it. -/
  finished : ∀ before parent child after, calls = before ++ .append parent child :: after →
    ∃ sub ∈ plan.elements, sub.number = child ∧ ∀ call ∈ after, call.nodes.Disjoint sub.numbers

/-- Wherever the calls append an element, all after that leaves it and what lies below it alone. -/
theorem finished_of_append (hn : plan.numbers.Nodup) {before after : List Call}
    {parent child : Nat} (hcalls : plan.calls = before ++ .append parent child :: after) :
    ∃ sub ∈ plan.elements, sub.number = child ∧
      ∀ call ∈ after, call.nodes.Disjoint sub.numbers := by
  have hmem : Call.append parent child ∈ plan.calls := by
    rw [hcalls]
    exact List.mem_append_right _ List.mem_cons_self
  obtain ⟨sub, hs, rfl⟩ := List.mem_map.mp (nodes_subset hmem (Call.mem_nodes_of_appended? rfl))
  have hne : sub ≠ plan := fun h => appended?_ne hn hmem (h ▸ rfl)
  obtain ⟨above, -, -, first, last, hrow, honce, hlast⟩ := exists_append hn hs hne
  -- No other call appends the element, so both decompositions are the same.
  have hnot : Call.append parent sub.number ∉ first ++ last := fun h => honce _ h rfl
  rw [List.mem_append, not_or] at hnot
  rw [hrow, List.append_cons_inj_of_notMem hnot.1 hnot.2] at hcalls
  obtain ⟨-, -, rfl⟩ := hcalls
  exact ⟨sub, hs, rfl, hlast⟩

theorem orders_calls (hn : plan.numbers.Nodup) : plan.Orders plan.calls where
  created := plan.filter_isCreate_calls
  root _ hc := appended?_ne hn hc
  appended sub hs hne := by
    obtain ⟨parent, hp, hi, before, after, hcalls, honce, -⟩ :=
      exists_append hn hs fun h => hne (congrArg number h)
    have hnone : (before ++ after).filter (fun call => call.appended? = some sub.number) = [] :=
      List.filter_eq_nil_iff.mpr fun call hc ha => honce call hc (of_decide_eq_true ha)
    rw [List.filter_append, List.append_eq_nil_iff] at hnone
    have hself : decide ((Call.append parent.number sub.number).appended? = some sub.number) :=
      decide_eq_true rfl
    refine ⟨parent, hp, hi, ?_⟩
    rw [hcalls, List.filter_append, List.filter_cons, if_pos hself, hnone.1, hnone.2,
      List.nil_append]
  items sub hs := by
    obtain ⟨before, after, hcalls, hbefore, hafter⟩ := exists_surround hn hs
    have hb : before.filterMap (Call.appendedTo? sub.number) = [] :=
      List.filterMap_eq_nil_iff.mpr fun call hc => Call.appendedTo?_of_notMem (hbefore call hc)
    have ha : after.filterMap (Call.appendedTo? sub.number) = [] :=
      List.filterMap_eq_nil_iff.mpr fun call hc => (hafter call hc).2
    rw [hcalls, List.filterMap_append, List.filterMap_append, hb, ha,
      filterMap_appendedTo?_calls (nodup_of_mem hn hs), List.nil_append, List.append_nil]
  written sub hs := by
    obtain ⟨before, after, hcalls, hbefore, hafter⟩ := exists_surround hn hs
    refine ⟨before, callsOf sub.number sub.items ++ after, ?_, hbefore, fun call hc => ?_⟩
    · rw [hcalls, calls_eq, List.cons_append, List.append_assoc]
    · rcases List.mem_append.mp hc with hc | hc
      · exact not_writesTo_of_callsOf (nodup_of_mem hn hs) hc
      · exact (hafter call hc).1
  finished _ _ _ _ hcalls := finished_of_append hn hcalls

end Plan

namespace Template

/-- A build without existing nodes orders its calls. -/
theorem build_ordered (log : CallLog) (config : BuildConfig) (template : Template Nat)
    {root : Nat} (ht : template.handles = [])
    (hok : (template.build config log).result = .ok root) :
    ∃ plan added, template.plan? config.defaultTag log.created = some plan ∧
      (template.build config log).target.calls = log.calls ++ added ∧
      root = log.created ∧ root = plan.number ∧
      plan.elements.map Plan.number = List.range' log.created template.count ∧
      plan.Orders added := by
  obtain ⟨hresult, htarget⟩ := build_follows log config template
  obtain ⟨plan, hplan, hroot, hcalls⟩ :=
    Template.calls_script config.defaultTag template 0 log.created ht
  have hnumbers := Template.numbers_of_plan? hplan
  have hn : plan.numbers.Nodup := by
    rw [hnumbers]
    exact List.nodup_range'
  obtain ⟨hr, hf⟩ := FirstFault.outcome_eq_ok (hok.symm.trans hresult)
  rw [FirstFault.reached_eq_self hf] at htarget
  have hnumber : root = plan.number := hr.trans hroot.symm
  refine ⟨plan, plan.calls, hplan, ?_, hnumber.trans (number_of_plan? hplan), hnumber, hnumbers,
    Plan.orders_calls hn⟩
  rw [htarget, CallLog.follow, hcalls]

/-- A section with its own text and with a list. -/
def notice : Template Nat :=
  .element "section.notice#top" (.bag ⟨[.html "Read", .attr "hidden" (.bool false)], [
    .element "ul" (.items [.element "li.k" (.text "one"), .element "li" (.text "two")]),
    .element "hr" (.items [])]⟩)

theorem build_notice :
    let log : CallLog := { calls := [.setText 2 "old"], created := 3, rejected := ["script"] }
    let run := notice.build {} log
    notice.handles = [] ∧ run.result = .ok 3 ∧
      ∃ (plan : Plan) (added : List Call), plan.number = 3 ∧
        plan.elements.map Plan.number = [3, 4, 5, 6, 7] ∧
        run.target.calls = log.calls ++ added ∧ plan.Orders added ∧
        added = [.create 3 "section", .setAttribute 3 "class" "notice", .setAttribute 3 "id" "top",
          .setText 3 "Read", .setAttribute 3 "hidden" "false", .create 4 "ul", .create 5 "li",
          .setAttribute 5 "class" "k", .setText 5 "one", .append 4 5, .create 6 "li",
          .setText 6 "two", .append 4 6, .append 3 4, .create 7 "hr", .append 3 7] := by
  intro log run
  have hok : (notice.build {} log).result = .ok 3 := by decide +kernel
  obtain ⟨plan, added, -, hcalls, -, hroot, hnumbers, horders⟩ :=
    build_ordered log {} notice rfl hok
  refine ⟨rfl, hok, plan, added, hroot.symm, hnumbers, hcalls, horders, ?_⟩
  refine List.append_cancel_left (hcalls.symm.trans ?_)
  decide +kernel

end Template

end TemplateTree
