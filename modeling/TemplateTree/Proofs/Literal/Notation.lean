import TemplateTree.Proofs.Literal.Splicing

/-! # The notation of literals

Reading accepts exactly the trees that are written like a literal, and gives that literal. -/

namespace TemplateTree.Literal

/-! ## Notation -/

/-- Items with commas between them and maybe one behind them. -/
inductive IsListed {α : Type} (IsItem : List Tree → α → Prop) : List Tree → List α → Prop
  | nil : IsListed IsItem [] []
  | single {trees item} : IsItem trees item → IsListed IsItem trees [item]
  | cons {trees item joint rest items} : IsItem trees item → IsListed IsItem rest items →
      IsListed IsItem (trees ++ .mark ',' joint :: rest) (item :: items)

mutual

/-- Trees that are a literal. Only numbers have a sign. -/
inductive IsNode : List Tree → Literal → Prop
  | string {text} : IsNode [.constant (.string text)] (.string text)
  | number {value} : IsNode [.constant (.number value)] (.number value)
  | negative {joint value} :
      IsNode [.mark '-' joint, .constant (.number value)] (.number value.negated)
  | yes : IsNode [.word "true"] (.bool true)
  | no : IsNode [.word "false"] (.bool false)
  | null : IsNode [.word "null"] .null
  | object {trees entries} : IsListed IsEntry trees entries →
      IsNode [.group .brace trees] (.object entries)
  | list {trees items} : IsListed IsNode trees items → IsNode [.group .bracket trees] (.list items)
  | expression {trees value} : Expression.read trees = some (value, true) →
      IsNode [.group .paren trees] (.expression value)

/-- A string, a colon and a literal. -/
inductive IsEntry : List Tree → StringConstant × Literal → Prop
  | intro {key joint trees value} : IsNode trees value →
      IsEntry (.constant (.string key) :: .mark ':' joint :: trees) (key, value)

end

/-! ## Readings -/

namespace Reading

variable {α β : Type} {before : Bool}

/-- A reading that goes through and has left over nothing, also not before it. -/
def Ends (reading : Reading α) (before : Bool) (value : α) : Prop :=
  reading.run before = .ok (value, true)

theorem ends_pure {a b : α} : (pure a : Reading α).Ends before b ↔ before = true ∧ a = b := by
  simp [Ends, pure, StateT.pure, StateT.run, Except.pure, and_comm]

theorem not_ends_fail {fault : Fault} {a : α} : ¬ (fail fault : Reading α).Ends before a := by
  intro h
  cases h

theorem run_bind_eq_ok {f : Reading α} {g : α → Reading β} {result : β × Bool} :
    (f >>= g).run before = .ok result ↔
      ∃ a after, f.run before = .ok (a, after) ∧ (g a).run after = .ok result := by
  rw [StateT.run_bind]
  cases f.run before with
  | error fault => exact iff_of_false nofun nofun
  | ok first =>
      obtain ⟨a, after⟩ := first
      exact ⟨fun h => ⟨a, after, rfl, h⟩, by rintro ⟨_, _, ⟨⟩, h⟩; exact h⟩

theorem Ends.bind {f : Reading α} {g : α → Reading β} {a : α} {b : β} (hf : f.Ends before a)
    (hg : (g a).Ends true b) : (f >>= g).Ends before b :=
  run_bind_eq_ok.mpr ⟨a, true, hf, hg⟩

theorem ends_map {f : Reading α} {g : α → β} {b : β} :
    (do return g (← f) : Reading β).Ends before b ↔ ∃ a, f.Ends before a ∧ g a = b := by
  rw [Ends, run_bind_eq_ok]
  constructor
  · rintro ⟨a, after, hf, hg⟩
    obtain ⟨rfl, hb⟩ := ends_pure.mp hg
    exact ⟨a, hf, hb⟩
  · rintro ⟨a, hf, hb⟩
    exact ⟨a, true, hf, ends_pure.mpr ⟨rfl, hb⟩⟩

end Reading

/-! ## The literal in front -/

theorem itemsOf_eq_front {trees : List Tree} (h : trees ≠ []) :
    itemsOf trees = (do
      let (item, rest) ← front trees
      return item :: (← itemsAfter rest)) := by
  unfold itemsOf front
  split <;> simp at *

theorem entriesOf_eq_front (key : StringConstant) (joint : Bool) (trees : List Tree) :
    entriesOf (.constant (.string key) :: .mark ':' joint :: trees) = (do
      let (value, rest) ← front trees
      return (key, value) :: (← entriesAfter rest)) := by
  unfold entriesOf
  split
  · contradiction
  · next heq =>
      cases heq
      simp [front]
  · next hplain heq =>
      cases heq
      rw [front]
      · simp
      · rintro joint value rest rfl rfl
        exact hplain _ _ _ rfl rfl
  · next hnone hsigned hplain =>
      cases trees with
      | nil => rfl
      | cons tree rest => exact absurd rfl (hplain key joint tree rest)

/-- Entries start with a key and a colon. -/
theorem entriesOf_eq_fail {trees : List Tree} (hne : trees ≠ [])
    (h : ∀ key joint rest, trees ≠ .constant (.string key) :: .mark ':' joint :: rest) :
    entriesOf trees = .fail .malformed := by
  unfold entriesOf
  split
  · contradiction
  · exact absurd rfl (h _ _ _)
  · exact absurd rfl (h _ _ _)
  · rfl

theorem front_cases {trees rest : List Tree} {before after : Bool} {literal : Literal}
    (h : (front trees).run before = .ok ((literal, rest), after)) :
    (∃ joint value, trees = .mark '-' joint :: .constant (.number value) :: rest ∧
        literal = .number value.negated ∧ before = after) ∨
      ∃ tree, trees = tree :: rest ∧ (ofTree tree).run before = .ok (literal, after) := by
  unfold front at h
  split at h
  · cases h
  · cases h
    exact .inl ⟨_, _, rfl, rfl, rfl⟩
  · obtain ⟨a, middle, hread, hpure⟩ := Reading.run_bind_eq_ok.mp h
    cases hpure
    exact .inr ⟨_, rfl, hread⟩

/-! ## What is read is written like a literal -/

theorem Tree.size_pos (tree : Tree) : 0 < tree.size := by
  cases tree <;> simp [Tree.size]

theorem sizeAll_lt_of_front {trees rest : List Tree} {before after : Bool} {literal : Literal}
    (h : (front trees).run before = .ok ((literal, rest), after)) :
    Tree.sizeAll rest < Tree.sizeAll trees := by
  obtain ⟨joint, value, rfl, -⟩ | ⟨tree, rfl, -⟩ := front_cases h
  · simp only [Tree.sizeAll, Tree.size]
    omega
  · have hpos := tree.size_pos
    rw [Tree.sizeAll]
    omega

/-- What stands behind an item: nothing, or a comma and more items. -/
def IsAfter {α : Type} (IsItem : List Tree → α → Prop) (trees : List Tree) (items : List α) : Prop :=
  trees = [] ∧ items = [] ∨
    ∃ joint rest, trees = .mark ',' joint :: rest ∧ IsListed IsItem rest items

theorem IsAfter.isListed {α : Type} {IsItem : List Tree → α → Prop} {node rest : List Tree}
    {item : α} {items : List α} (h : IsAfter IsItem rest items) (hitem : IsItem node item) :
    IsListed IsItem (node ++ rest) (item :: items) := by
  obtain ⟨rfl, rfl⟩ | ⟨joint, rest, rfl, hlist⟩ := h
  · rw [List.append_nil]
    exact .single hitem
  · exact .cons hitem hlist

theorem ofWord_sound {text : String} {before : Bool} {literal : Literal}
    (h : (ofWord text).Ends before literal) : before = true ∧ IsNode [.word text] literal := by
  unfold ofWord at h
  split_ifs at h with htrue hfalse hnull hname
  · obtain ⟨hbefore, rfl⟩ := Reading.ends_pure.mp h
    exact ⟨hbefore, htrue ▸ .yes⟩
  · obtain ⟨hbefore, rfl⟩ := Reading.ends_pure.mp h
    exact ⟨hbefore, hfalse ▸ .no⟩
  · obtain ⟨hbefore, rfl⟩ := Reading.ends_pure.mp h
    exact ⟨hbefore, hnull ▸ .null⟩
  · exact absurd h Reading.not_ends_fail
  · exact absurd h Reading.not_ends_fail

theorem ofExpression_sound {trees : List Tree} {before : Bool} {literal : Literal}
    (h : (ofExpression trees).Ends before literal) :
    before = true ∧ IsNode [.group .paren trees] literal := by
  unfold ofExpression at h
  split at h
  · next value complete hread =>
      have hresult : (Literal.expression value, before && complete) = (literal, true) :=
        Except.ok.inj h
      obtain ⟨rfl, hall⟩ := Prod.mk.inj hresult
      rw [Bool.and_eq_true] at hall
      exact ⟨hall.1, .expression (hall.2 ▸ hread)⟩
  · exact absurd h Reading.not_ends_fail

theorem front_sound {trees rest : List Tree} {before : Bool} {literal : Literal}
    (h : (front trees).Ends before (literal, rest))
    (hsound : ∀ tree, trees = tree :: rest → (ofTree tree).Ends before literal →
      before = true ∧ IsNode [tree] literal) :
    before = true ∧ ∃ node, trees = node ++ rest ∧ IsNode node literal := by
  obtain ⟨joint, value, rfl, rfl, hbefore⟩ | ⟨tree, rfl, hread⟩ := front_cases h
  · exact ⟨hbefore, [_, _], rfl, .negative⟩
  · obtain ⟨hbefore, hnode⟩ := hsound tree rfl hread
    exact ⟨hbefore, [tree], rfl, hnode⟩

mutual

theorem ofTree_sound {before : Bool} {literal : Literal} :
    ∀ tree : Tree, (ofTree tree).Ends before literal → before = true ∧ IsNode [tree] literal
  | .word text, h => ofWord_sound (by rwa [ofTree] at h)
  | .mark c joint, h => by
      rw [ofTree] at h
      exact absurd h Reading.not_ends_fail
  | .constant value, h => by
      rw [ofTree] at h
      cases value with
      | string text =>
          obtain ⟨hbefore, rfl⟩ := Reading.ends_pure.mp h
          exact ⟨hbefore, .string⟩
      | number value =>
          obtain ⟨hbefore, rfl⟩ := Reading.ends_pure.mp h
          exact ⟨hbefore, .number⟩
      | other source => exact absurd h Reading.not_ends_fail
  | .group .paren trees, h => ofExpression_sound (by rwa [ofTree] at h)
  | .group .brace trees, h => by
      rw [ofTree] at h
      obtain ⟨entries, hentries, rfl⟩ := Reading.ends_map.mp h
      obtain ⟨hbefore, hlist⟩ := entriesOf_sound trees hentries
      exact ⟨hbefore, .object hlist⟩
  | .group .bracket trees, h => by
      rw [ofTree] at h
      obtain ⟨items, hitems, rfl⟩ := Reading.ends_map.mp h
      obtain ⟨hbefore, hlist⟩ := itemsOf_sound trees hitems
      exact ⟨hbefore, .list hlist⟩
termination_by tree => (tree.size, 0)
decreasing_by
  all_goals
    simp only [Tree.size, Prod.lex_def]
    omega

theorem itemsOf_sound {before : Bool} {items : List Literal} :
    ∀ trees : List Tree, (itemsOf trees).Ends before items →
      before = true ∧ IsListed IsNode trees items
  | trees, h => by
      by_cases hne : trees = []
      · subst hne
        obtain ⟨hbefore, rfl⟩ := Reading.ends_pure.mp h
        exact ⟨hbefore, .nil⟩
      · rw [itemsOf_eq_front hne] at h
        obtain ⟨⟨item, rest⟩, after, hfront, hrest⟩ := Reading.run_bind_eq_ok.mp h
        obtain ⟨others, hothers, rfl⟩ := Reading.ends_map.mp hrest
        have hless : Tree.sizeAll rest < Tree.sizeAll trees := sizeAll_lt_of_front hfront
        obtain ⟨rfl, hafter⟩ := itemsAfter_sound rest hothers
        obtain ⟨hbefore, node, rfl, hnode⟩ :=
          front_sound hfront fun tree htree => ofTree_sound tree
        exact ⟨hbefore, hafter.isListed hnode⟩
termination_by trees => (Tree.sizeAll trees, 1)
decreasing_by
  · simp only [Prod.lex_def]
    omega
  · simp only [htree, Tree.sizeAll, Prod.lex_def]
    omega

theorem itemsAfter_sound {before : Bool} {items : List Literal} :
    ∀ trees : List Tree, (itemsAfter trees).Ends before items →
      before = true ∧ IsAfter IsNode trees items
  | [], h => by
      rw [itemsAfter] at h
      obtain ⟨hbefore, rfl⟩ := Reading.ends_pure.mp h
      exact ⟨hbefore, .inl ⟨rfl, rfl⟩⟩
  | tree :: rest, h => by
      unfold itemsAfter at h
      split at h
      · contradiction
      · next joint others heq =>
          cases heq
          obtain ⟨hbefore, hlist⟩ := itemsOf_sound rest h
          exact ⟨hbefore, .inr ⟨joint, rest, rfl, hlist⟩⟩
      · exact absurd h Reading.not_ends_fail
termination_by trees => (Tree.sizeAll trees, 1)
decreasing_by
  have := tree.size_pos
  simp only [Tree.sizeAll, Prod.lex_def]
  omega

theorem entriesOf_sound {before : Bool} {entries : List (StringConstant × Literal)} :
    ∀ trees : List Tree, (entriesOf trees).Ends before entries →
      before = true ∧ IsListed IsEntry trees entries
  | trees, h => by
      by_cases hne : trees = []
      · subst hne
        obtain ⟨hbefore, rfl⟩ := Reading.ends_pure.mp h
        exact ⟨hbefore, .nil⟩
      by_cases hkey : ∃ key joint rest, trees = .constant (.string key) :: .mark ':' joint :: rest
      · obtain ⟨key, joint, behind, htrees⟩ := hkey
        rw [htrees, entriesOf_eq_front] at h
        obtain ⟨⟨value, rest⟩, after, hfront, hrest⟩ := Reading.run_bind_eq_ok.mp h
        obtain ⟨others, hothers, rfl⟩ := Reading.ends_map.mp hrest
        have hless : Tree.sizeAll rest < Tree.sizeAll behind := sizeAll_lt_of_front hfront
        obtain ⟨rfl, hafter⟩ := entriesAfter_sound rest hothers
        obtain ⟨hbefore, node, hnode, hliteral⟩ :=
          front_sound hfront fun tree htree => ofTree_sound tree
        rw [htrees, hnode]
        exact ⟨hbefore, hafter.isListed (.intro hliteral)⟩
      · rw [entriesOf_eq_fail hne fun key joint rest h => hkey ⟨key, joint, rest, h⟩] at h
        exact absurd h Reading.not_ends_fail
termination_by trees => (Tree.sizeAll trees, 1)
decreasing_by
  · simp only [htrees, Tree.sizeAll, Prod.lex_def]
    omega
  · simp only [htrees, htree, Tree.sizeAll, Prod.lex_def]
    omega

theorem entriesAfter_sound {before : Bool} {entries : List (StringConstant × Literal)} :
    ∀ trees : List Tree, (entriesAfter trees).Ends before entries →
      before = true ∧ IsAfter IsEntry trees entries
  | [], h => by
      rw [entriesAfter] at h
      obtain ⟨hbefore, rfl⟩ := Reading.ends_pure.mp h
      exact ⟨hbefore, .inl ⟨rfl, rfl⟩⟩
  | tree :: rest, h => by
      unfold entriesAfter at h
      split at h
      · contradiction
      · next joint others heq =>
          cases heq
          obtain ⟨hbefore, hlist⟩ := entriesOf_sound rest h
          exact ⟨hbefore, .inr ⟨joint, rest, rfl, hlist⟩⟩
      · exact absurd h Reading.not_ends_fail
termination_by trees => (Tree.sizeAll trees, 1)
decreasing_by
  have := tree.size_pos
  simp only [Tree.sizeAll, Prod.lex_def]
  omega

end

/-! ## What is written like a literal is read -/

theorem IsNode.ne_nil {node : List Tree} {literal : Literal} (h : IsNode node literal) :
    node ≠ [] := by
  rintro rfl
  cases h

/-- A literal is read off the front, whatever stands behind it. -/
theorem IsNode.front {node : List Tree} {literal : Literal} (h : IsNode node literal)
    (hread : ∀ tree, node = [tree] → (ofTree tree).Ends true literal) (rest : List Tree) :
    (Literal.front (node ++ rest)).Ends true (literal, rest) := by
  cases h with
  | negative => rfl
  | string | number | yes | no | null | object | list | expression =>
      exact Reading.ends_map.mpr ⟨_, hread _ rfl, rfl⟩

theorem itemsOf_complete {trees : List Tree} {items : List Literal}
    (h : IsListed IsNode trees items)
    (hread : ∀ item ∈ items, ∀ tree, IsNode [tree] item → (ofTree tree).Ends true item) :
    (itemsOf trees).Ends true items := by
  induction h with
  | nil => rfl
  | @single trees item hitem =>
      have hfront := hitem.front (fun tree htree => hread item List.mem_cons_self tree
        (htree ▸ hitem)) []
      rw [List.append_nil] at hfront
      rw [itemsOf_eq_front hitem.ne_nil]
      exact hfront.bind rfl
  | @cons trees item joint rest items hitem _ ih =>
      rw [List.forall_mem_cons] at hread
      have hfront := hitem.front (fun tree htree => hread.1 tree (htree ▸ hitem))
        (.mark ',' joint :: rest)
      rw [itemsOf_eq_front (by simp)]
      exact hfront.bind (Reading.ends_map.mpr ⟨items, ih hread.2, rfl⟩)

theorem entriesOf_complete {trees : List Tree} {entries : List (StringConstant × Literal)}
    (h : IsListed IsEntry trees entries)
    (hread : ∀ entry ∈ entries, ∀ tree, IsNode [tree] entry.2 → (ofTree tree).Ends true entry.2) :
    (entriesOf trees).Ends true entries := by
  induction h with
  | nil => rfl
  | single hentry =>
      obtain ⟨hvalue⟩ := hentry
      have hfront := hvalue.front (fun tree htree => hread _ List.mem_cons_self tree
        (htree ▸ hvalue)) []
      rw [List.append_nil] at hfront
      rw [entriesOf_eq_front]
      exact hfront.bind rfl
  | @cons _ _ joint rest entries hentry _ ih =>
      obtain ⟨hvalue⟩ := hentry
      rw [List.forall_mem_cons] at hread
      have hfront := hvalue.front (fun tree htree => hread.1 tree (htree ▸ hvalue))
        (.mark ',' joint :: rest)
      rw [List.cons_append, List.cons_append, entriesOf_eq_front]
      exact hfront.bind (Reading.ends_map.mpr ⟨entries, ih hread.2, rfl⟩)

theorem ofTree_complete {tree : Tree} {literal : Literal} (h : IsNode [tree] literal) :
    (ofTree tree).Ends true literal := by
  induction literal using inductionOn generalizing tree with
  | scalar literal hscalar =>
      cases h with
      | string | number | yes | no | null => rfl
      | object | list => cases hscalar
      | @expression trees value hread =>
          rw [ofTree, ofExpression, hread]
          rfl
  | list items ih =>
      cases h with
      | list hlist =>
        rw [ofTree]
        exact Reading.ends_map.mpr ⟨items, itemsOf_complete hlist fun item hi _ => ih item hi, rfl⟩
  | object entries ih =>
      cases h with
      | object hlist =>
        rw [ofTree]
        exact Reading.ends_map.mpr
          ⟨entries, entriesOf_complete hlist fun entry he _ => ih entry he, rfl⟩

theorem ofTrees_eq_ok_iff {trees : List Tree} {literal : Literal} :
    ofTrees trees = .ok literal ↔ IsNode trees literal := by
  have hofTrees : ofTrees trees = .ok literal ↔ (front trees).Ends true (literal, []) := by
    rw [ofTrees, Reading.Ends]
    split
    · next heq => simp [heq]
    · next hother heq =>
        rw [heq]
        exact iff_of_false nofun fun h => hother literal (Except.ok.inj h)
    · next heq => simp [heq]
  rw [hofTrees]
  constructor
  · intro h
    obtain ⟨-, node, rfl, hnode⟩ := front_sound h fun tree _ => ofTree_sound tree
    rwa [List.append_nil]
  · intro h
    have hfront := h.front (fun tree htree => ofTree_complete (htree ▸ h)) []
    rwa [List.append_nil] at hfront

/-! ## Writing -/

theorem itemsExpressions_eq_flatMap (items : List Literal) :
    itemsExpressions items = items.flatMap expressions := by
  induction items with
  | nil => rfl
  | cons item rest ih => rw [itemsExpressions, ih, List.flatMap_cons]

theorem entriesExpressions_eq_flatMap (entries : List (StringConstant × Literal)) :
    entriesExpressions entries = entries.flatMap fun entry => entry.2.expressions := by
  induction entries with
  | nil => rfl
  | cons entry rest ih => rw [entriesExpressions, ih, List.flatMap_cons]

/-- The comma behind an item. Behind the last one it may be left out. -/
def commaBehind (last wanted : Bool) : List Tree :=
  if last && !wanted then [] else [.mark ',' false]

mutual

/-- A literal as trees. Every container tells by its place whether it has a comma behind its last
item; a place is the way to it from the inside out. -/
def written (comma : List Nat → Bool) (place : List Nat) : Literal → List Tree
  | .string text => [.constant (.string text)]
  | .number value =>
    (if value.negative then [.mark '-' false] else []) ++
      [.constant (.number { value with negative := false })]
  | .bool value => [.word (toString value)]
  | .null => [.word "null"]
  | .object entries => [.group .brace (writtenEntries comma place 0 entries)]
  | .list items => [.group .bracket (writtenItems comma place 0 items)]
  | .expression value => [.group .paren value.trees]

def writtenEntries (comma : List Nat → Bool) (place : List Nat) (index : Nat) :
    List (StringConstant × Literal) → List Tree
  | [] => []
  | (key, value) :: rest =>
    .constant (.string key) :: .mark ':' false :: value.written comma (index :: place) ++
      commaBehind rest.isEmpty (comma place) ++ writtenEntries comma place (index + 1) rest

def writtenItems (comma : List Nat → Bool) (place : List Nat) (index : Nat) :
    List Literal → List Tree
  | [] => []
  | item :: rest =>
    item.written comma (index :: place) ++ commaBehind rest.isEmpty (comma place) ++
      writtenItems comma place (index + 1) rest

end

section

variable {comma : List Nat → Bool} {place : List Nat}

/-- An item with what follows it, if all that follows is a list. -/
theorem IsListed.written {α : Type} {IsItem : List Tree → α → Prop} {node trees : List Tree}
    {item : α} {items : List α} (hitem : IsItem node item) (h : IsListed IsItem trees items)
    (hempty : items = [] → trees = []) {wanted : Bool} :
    IsListed IsItem (node ++ commaBehind items.isEmpty wanted ++ trees) (item :: items) := by
  rw [commaBehind]
  split_ifs with hlast
  · rw [Bool.and_eq_true, List.isEmpty_iff] at hlast
    obtain ⟨rfl, -⟩ := hlast
    rw [hempty rfl, List.append_nil, List.append_nil]
    exact .single hitem
  · rw [List.append_assoc]
    exact .cons hitem h

theorem isNode_number (value : NumberConstant) :
    IsNode (written comma place (.number value)) (.number value) := by
  obtain ⟨negative, float, digits, suffix, source⟩ := value
  cases negative with
  | false => exact .number
  | true => exact IsNode.negative

theorem isListed_writtenItems {items : List Literal}
    (h : ∀ item ∈ items, ∀ place, IsNode (item.written comma place) item) (index : Nat) :
    IsListed IsNode (writtenItems comma place index items) items := by
  induction items generalizing index with
  | nil => exact .nil
  | cons item rest ih =>
      rw [List.forall_mem_cons] at h
      rw [writtenItems]
      exact .written (h.1 _) (ih h.2 _) (by rintro rfl; rfl)

theorem isListed_writtenEntries {entries : List (StringConstant × Literal)}
    (h : ∀ entry ∈ entries, ∀ place, IsNode (entry.2.written comma place) entry.2) (index : Nat) :
    IsListed IsEntry (writtenEntries comma place index entries) entries := by
  induction entries generalizing index with
  | nil => exact .nil
  | cons entry rest ih =>
      rw [List.forall_mem_cons] at h
      rw [writtenEntries]
      exact .written (.intro (h.1 _)) (ih h.2 _) (by rintro rfl; rfl)

theorem isNode_written {literal : Literal} (h : literal.expressions = []) :
    IsNode (literal.written comma place) literal := by
  induction literal using inductionOn generalizing place with
  | scalar literal hscalar =>
      cases literal with
      | string text => exact .string
      | number value => exact isNode_number value
      | bool value =>
          cases value with
          | true => exact .yes
          | false => exact .no
      | null => exact .null
      | expression => cases h
      | object | list => cases hscalar
  | list items ih =>
      rw [expressions, itemsExpressions_eq_flatMap, List.flatMap_eq_nil_iff] at h
      exact .list (isListed_writtenItems (fun item hi _ => ih item hi (h item hi)) 0)
  | object entries ih =>
      rw [expressions, entriesExpressions_eq_flatMap, List.flatMap_eq_nil_iff] at h
      exact .object (isListed_writtenEntries (fun entry he _ => ih entry he (h entry he)) 0)

end

/-- Reading gives a literal exactly for the trees that are written like it. A literal without
expressions is read back from what it is written as, whichever containers have a comma behind
their last item. -/
theorem ofTrees_by_notation :
    (∀ trees literal, ofTrees trees = .ok literal ↔ IsNode trees literal) ∧
      ∀ literal : Literal, literal.expressions = [] → ∀ comma : List Nat → Bool,
        ofTrees (literal.written comma []) = .ok literal :=
  ⟨fun _ _ => ofTrees_eq_ok_iff, fun _ h _ => ofTrees_eq_ok_iff.mpr (isNode_written h)⟩

/-- A comma behind the last entry of the object and of the list in it, but not in the inner
object. -/
theorem ofTrees_written_outline :
    let outline : Literal := .object [(.ofText "ol", .list [.number minusTwo, .bool true]),
      (.ofText "p", .object [(.ofText "b", .null)])]
    let comma (place : List Nat) : Bool := place != [1]
    outline.expressions = [] ∧
      outline.written comma [] = [.group .brace [
        .constant (.string (.ofText "ol")), .mark ':' false, .group .bracket [
          .mark '-' false, .constant (.number { minusTwo with negative := false }),
          .mark ',' false, .word "true", .mark ',' false],
        .mark ',' false,
        .constant (.string (.ofText "p")), .mark ':' false, .group .brace [
          .constant (.string (.ofText "b")), .mark ':' false, .word "null"],
        .mark ',' false]] ∧
      ofTrees (outline.written comma []) = .ok outline := by
  intro outline comma
  have hnone : outline.expressions = [] := rfl
  exact ⟨hnone, rfl, ofTrees_by_notation.2 outline hnone comma⟩

end TemplateTree.Literal
