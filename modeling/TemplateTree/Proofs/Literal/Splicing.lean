import TemplateTree.Proofs.Literal.Agreement

/-! # Expressions in generated code

Code for a literal has the embedded expressions in their order, each of them once. The places
are those of the holes in the code for the same literal with a hole for every expression. -/

namespace TemplateTree.Literal

/-! ## Holes -/

/-- A placeholder for an expression. No name in generated code is an underscore. -/
def hole : Expression :=
  ⟨[.word "_"]⟩

mutual

/-- The embedded expressions, in document order. -/
def expressions : Literal → List Expression
  | .object entries => entriesExpressions entries
  | .list items => itemsExpressions items
  | .expression value => [value]
  | .string _ | .number _ | .bool _ | .null => []

def entriesExpressions : List (StringConstant × Literal) → List Expression
  | [] => []
  | (_, value) :: rest => value.expressions ++ entriesExpressions rest

def itemsExpressions : List Literal → List Expression
  | [] => []
  | item :: rest => item.expressions ++ itemsExpressions rest

end

mutual

/-- The literal with a hole in the place of every expression. -/
def hollow : Literal → Literal
  | .object entries => .object (hollowEntries entries)
  | .list items => .list (hollowItems items)
  | .expression _ => .expression hole
  | .string text => .string text
  | .number value => .number value
  | .bool value => .bool value
  | .null => .null

def hollowEntries : List (StringConstant × Literal) → List (StringConstant × Literal)
  | [] => []
  | (key, value) :: rest => (key, value.hollow) :: hollowEntries rest

def hollowItems : List Literal → List Literal
  | [] => []
  | item :: rest => item.hollow :: hollowItems rest

end

/-- A tree that is neither a hole nor a group. -/
def Tree.isSolid : Tree → Bool
  | .word text => text != "_"
  | .mark _ _ | .constant _ => true
  | .group _ _ => false

/-- Trees with holes, the expressions for them from left to right, and the trees with every
hole replaced by its expression. -/
inductive Fills : List Tree → List Expression → List Tree → Prop
  | nil : Fills [] [] []
  | hole {holed values trees} (value : Expression) :
      Fills holed values trees → Fills (.word "_" :: holed) (value :: values) (value.trees ++ trees)
  | solid {tree holed values trees} :
      tree.isSolid → Fills holed values trees → Fills (tree :: holed) values (tree :: trees)
  | group {delimiter inner values filled holed others trees} :
      Fills inner values filled → Fills holed others trees →
      Fills (.group delimiter inner :: holed) (values ++ others) (.group delimiter filled :: trees)

/-- Several lists of trees with holes, filled one after the other. -/
inductive FillsAll : List (List Tree) → List Expression → List (List Tree) → Prop
  | nil : FillsAll [] [] []
  | cons {holed values trees lists others filled} :
      Fills holed values trees → FillsAll lists others filled →
      FillsAll (holed :: lists) (values ++ others) (trees :: filled)

namespace Fills

variable {holed others trees filled : List Tree} {values more : List Expression}

theorem append (h : Fills holed values trees) (hnext : Fills others more filled) :
    Fills (holed ++ others) (values ++ more) (trees ++ filled) := by
  induction h with
  | nil => exact hnext
  | hole value _ ih =>
      rw [List.append_assoc]
      exact .hole value ih
  | solid hsolid _ ih => exact .solid hsolid ih
  | group hinner _ _ ih =>
      rw [List.append_assoc]
      exact .group hinner ih

theorem expression (value : Expression) : Fills Literal.hole.trees [value] value.trees := by
  have h := Fills.hole value .nil
  rwa [List.append_nil] at h

theorem of_isSolid (h : trees.all Tree.isSolid) : Fills trees [] trees := by
  induction trees with
  | nil => exact .nil
  | cons tree rest ih =>
      rw [List.all_cons, Bool.and_eq_true] at h
      exact .solid h.1 (ih h.2)

theorem enclosed (delimiter : Delimiter) (h : Fills holed values trees) :
    Fills [.group delimiter holed] values [.group delimiter trees] := by
  have hgroup : Fills [.group delimiter holed] (values ++ []) [.group delimiter trees] :=
    .group h .nil
  rwa [List.append_nil] at hgroup

end Fills

namespace FillsAll

variable {lists filled : List (List Tree)} {values : List Expression}

theorem singleton {holed trees : List Tree} (h : Fills holed values trees) :
    FillsAll [holed] values [trees] := by
  have hcons := FillsAll.cons h .nil
  rwa [List.append_nil] at hcons

theorem intercalate (h : FillsAll lists values filled) :
    Fills ([Tree.mark ',' false].intercalate lists) values
      ([Tree.mark ',' false].intercalate filled) := by
  induction h with
  | nil => exact .nil
  | @cons holed values trees lists others filled hfirst hrest ih =>
      cases hrest with
      | nil =>
          rw [List.append_nil, List.intercalate_singleton, List.intercalate_singleton]
          exact hfirst
      | cons _ _ =>
          rw [List.intercalate_cons_cons, List.intercalate_cons_cons, List.append_assoc,
            List.append_assoc]
          exact hfirst.append (.solid rfl ih)

end FillsAll

/-! ## Code with holes -/

section

variable {lists filled : List (List Tree)} {values : List Expression}

theorem fills_call {function : List Tree} (hfunction : function.all Tree.isSolid)
    (h : FillsAll lists values filled) :
    Fills (call function lists) values (call function filled) :=
  (Fills.of_isSolid hfunction).append (h.intercalate.enclosed .paren)

theorem fills_method {name : String} (hname : (Tree.word name).isSolid)
    (h : FillsAll lists values filled) :
    Fills (method name lists) values (method name filled) :=
  .solid rfl (fills_call (by rw [List.all_cons, hname]; rfl) h)

theorem fills_listTrees (h : FillsAll lists values filled) :
    Fills (listTrees lists) values (listTrees filled) := by
  have hpath : Fills (rootPath ["std", "vec"]) [] (rootPath ["std", "vec"]) := .of_isSolid rfl
  exact hpath.append (.solid rfl (h.intercalate.enclosed .bracket))

end

theorem fills_stringTrees (text : StringConstant) :
    Fills (stringTrees text) [] (stringTrees text) :=
  .of_isSolid rfl

theorem fills_numberTrees (value : NumberConstant) :
    Fills (numberTrees value) [] (numberTrees value) :=
  .of_isSolid (by rw [numberTrees]; cases value.negative <;> rfl)

/-- Code with holes, and the code with expressions in their places. -/
def TemplateCode.Holds (values : List Expression) (code holed : TemplateCode) : Prop :=
  Fills holed.trees values code.trees

def ContentCode.Holds (values : List Expression) (code holed : ContentCode) : Prop :=
  Fills holed.trees values code.trees

def BagCode.Holds (values : List Expression) (code holed : BagCode) : Prop :=
  Fills holed.trees values code.trees

def TemplateCode.AllHold (values : List Expression) (codes holed : List TemplateCode) : Prop :=
  FillsAll (TemplateCode.treesAll holed) values (TemplateCode.treesAll codes)

def BagCode.AllHold (values : List Expression) (codes holed : List BagCode) : Prop :=
  Fills (BagCode.treesAll holed) values (BagCode.treesAll codes)

section

variable {values : List Expression}

theorem ContentCode.Holds.element {code holed : ContentCode} (h : code.Holds values holed)
    (selector : StringConstant) :
    (TemplateCode.element selector code).Holds values (.element selector holed) := by
  rw [TemplateCode.Holds, TemplateCode.trees, TemplateCode.trees]
  exact fills_call rfl (.cons (fills_stringTrees selector) (.singleton h))

theorem TemplateCode.holds_node (value : Expression) :
    (TemplateCode.node value).Holds [value] (.node hole) := by
  rw [TemplateCode.Holds, TemplateCode.trees, TemplateCode.trees]
  exact fills_call rfl (.singleton (.expression value))

theorem ContentCode.holds_node (value : Expression) :
    (ContentCode.node value).Holds [value] (.node hole) := by
  rw [ContentCode.Holds, ContentCode.trees, ContentCode.trees]
  exact fills_call rfl (.singleton (.expression value))

theorem ContentCode.holds_text (text : StringConstant) :
    (ContentCode.text text).Holds [] (.text text) := by
  rw [ContentCode.Holds, ContentCode.trees]
  exact fills_call rfl (.singleton (fills_stringTrees text))

theorem ContentCode.holds_items {codes holed : List TemplateCode}
    (h : TemplateCode.AllHold values codes holed) :
    (ContentCode.items codes).Holds values (.items holed) := by
  rw [ContentCode.Holds, ContentCode.trees, ContentCode.trees]
  exact fills_call rfl (.singleton (fills_listTrees h))

theorem ContentCode.holds_bag {codes holed : List BagCode} (h : BagCode.AllHold values codes holed) :
    (ContentCode.bag codes).Holds values (.bag holed) := by
  rw [ContentCode.Holds, ContentCode.trees, ContentCode.trees]
  exact fills_call rfl (.singleton ((fills_call rfl .nil).append h))

end

/-! ## Literals with holes -/

theorem isContainer_hollow (literal : Literal) :
    literal.hollow.isContainer = literal.isContainer := by
  cases literal <;> rfl

theorem attrCode_holds {literal : Literal} (h : literal.isContainer = false) :
    Agree (fun (code holed : AttrCode) => Fills holed.trees literal.expressions code.trees)
      (attrCode literal) (attrCode literal.hollow) := by
  cases literal with
  | string text => exact .ok (fills_stringTrees text)
  | number value =>
      rw [hollow, attrCode]
      split
      · exact .error
      · exact .ok (fills_numberTrees value)
  | bool value => exact .ok (.of_isSolid (by cases value <;> rfl))
  | null => exact .ok (.of_isSolid rfl)
  | expression value => exact .ok (.expression value)
  | object | list => cases h

theorem textCode_holds (key : String) (literal : Literal) :
    Agree (fun (code holed : TextCode) => Fills holed.trees literal.expressions code.trees)
      (textCode key literal) (textCode key literal.hollow) := by
  cases literal with
  | expression value => exact .ok (.expression value)
  | object | list => exact .error
  | string | number | bool | null => exact .ok (fills_stringTrees _)

/-- The code for a literal and for the same literal with holes. -/
structure Splices (literal : Literal) : Prop where
  template : Agree (TemplateCode.Holds literal.expressions) (templateCode literal)
    (templateCode literal.hollow)
  content : Agree (ContentCode.Holds literal.expressions) (contentCode literal)
    (contentCode literal.hollow)
  items : ∀ items, literal = .list items → Agree (TemplateCode.AllHold (itemsExpressions items))
    (templateCodes items) (templateCodes (hollowItems items))

/-- A container never becomes the value of an attribute. -/
theorem nested_of_ofKey {key : String} {nested : Bool} (h : EntryKind.ofKey key nested = .attr) :
    nested = false := by
  cases nested with
  | false => rfl
  | true =>
      rw [EntryKind.ofKey] at h
      split_ifs at h
      contradiction

theorem entryCode_holds (key : StringConstant) {value : Literal} (h : value.Splices) :
    Agree (BagCode.Holds value.expressions) (entryCode (key, value))
      (entryCode (key, value.hollow)) := by
  rw [entryCode, entryCode, isContainer_hollow]
  cases hkind : EntryKind.ofKey key.value value.isContainer with
  | children =>
      cases value with
      | list items =>
          refine (h.items items rfl).map fun codes holed hcodes => ?_
          exact fills_method rfl (.singleton (fills_listTrees hcodes))
      | string | number | bool | null | object | expression => exact .error
  | html =>
      refine (textCode_holds htmlKey value).map fun code holed hcode => ?_
      exact fills_method rfl (.singleton hcode)
  | style =>
      refine (textCode_holds styleKey value).map fun code holed hcode => ?_
      exact fills_method rfl (.singleton hcode)
  | child =>
      refine h.content.map fun code holed hcode => ?_
      exact fills_method rfl (.singleton (hcode.element key))
  | attr =>
      have hscalar := nested_of_ofKey hkind
      refine (attrCode_holds hscalar).map fun code holed hcode => ?_
      exact fills_method rfl (.cons (fills_stringTrees key) (.singleton hcode))

theorem bagCode_holds {entries : List (StringConstant × Literal)}
    (h : ∀ entry ∈ entries, entry.2.Splices) :
    Agree (BagCode.AllHold (entriesExpressions entries)) (bagCode entries)
      (bagCode (hollowEntries entries)) := by
  induction entries with
  | nil =>
      rw [hollowEntries]
      exact .ok .nil
  | cons entry rest ih =>
      obtain ⟨key, value⟩ := entry
      rw [List.forall_mem_cons] at h
      rw [hollowEntries, bagCode_cons, bagCode_cons]
      refine (entryCode_holds key h.1).bind fun code holed hcode => ?_
      refine (ih h.2).map fun codes others hcodes => ?_
      rw [BagCode.AllHold, BagCode.treesAll, BagCode.treesAll]
      exact hcode.append hcodes

theorem templateCodes_hold {items : List Literal} (h : ∀ item ∈ items, item.Splices) :
    Agree (TemplateCode.AllHold (itemsExpressions items)) (templateCodes items)
      (templateCodes (hollowItems items)) := by
  induction items with
  | nil =>
      rw [hollowItems]
      exact .ok .nil
  | cons item rest ih =>
      rw [List.forall_mem_cons] at h
      rw [hollowItems, templateCodes_cons, templateCodes_cons]
      refine h.1.template.bind fun code holed hcode => ?_
      refine (ih h.2).map fun codes others hcodes => ?_
      rw [TemplateCode.AllHold, TemplateCode.treesAll, TemplateCode.treesAll]
      exact .cons hcode hcodes

theorem splices (literal : Literal) : literal.Splices := by
  induction literal using inductionOn with
  | scalar literal hscalar =>
      cases literal with
      | string text | number value | bool value | null =>
          exact ⟨.error, .ok (ContentCode.holds_text _), by rintro _ ⟨⟩⟩
      | expression value =>
          exact ⟨.ok (TemplateCode.holds_node value), .ok (ContentCode.holds_node value),
            by rintro _ ⟨⟩⟩
      | object | list => cases hscalar
  | list items ih =>
      have hitems := templateCodes_hold ih
      refine ⟨.error, ?_, ?_⟩
      · rw [hollow, contentCode_list, contentCode_list]
        exact hitems.map fun codes holed => ContentCode.holds_items
      · rintro _ ⟨⟩
        exact hitems
  | object entries ih =>
      refine ⟨?_, ?_, by rintro _ ⟨⟩⟩
      · rcases entries with _ | ⟨⟨selector, value⟩, _ | ⟨second, rest⟩⟩
        · exact .error
        · rw [hollow, hollowEntries, hollowEntries, templateCode_single, templateCode_single]
          refine (ih _ List.mem_cons_self).content.map fun code holed hcode => ?_
          rw [expressions, entriesExpressions, entriesExpressions, List.append_nil]
          exact hcode.element selector
        · exact .error
      · rw [hollow, contentCode_object, contentCode_object]
        exact (bagCode_holds ih).map fun codes holed => ContentCode.holds_bag

/-! ## Values that stand alone -/

/-- Neither a container nor an expression. -/
def isScalar : Literal → Bool
  | .string _ | .number _ | .bool _ | .null => true
  | .object _ | .list _ | .expression _ => false

/-- Attributes are written as they are but for containers, and texts but for containers and
expressions. -/
structure Leaves.Proper (leaves : Leaves) : Prop where
  attr : ∀ literal : Literal, literal.isContainer = false → leaves.attr literal = attrCode literal
  text : ∀ literal : Literal, literal.isScalar → leaves.text literal = scalarText literal

section

variable (leaves : Leaves) {literal : Literal}

theorem textCodeWith_of_isScalar (key : String) (h : literal.isScalar) :
    textCodeWith leaves key literal = .ok (.string (leaves.text literal)) := by
  cases literal with
  | string | number | bool | null => rfl
  | object | list | expression => cases h

theorem contentCodeWith_of_isScalar (h : literal.isScalar) :
    contentCodeWith leaves literal = .ok (.text (leaves.text literal)) := by
  cases literal with
  | string | number | bool | null => rfl
  | object | list | expression => cases h

end

namespace Leaves.Proper

variable {leaves : Leaves}

theorem textCode_eq (h : leaves.Proper) (key : String) (literal : Literal) :
    textCodeWith leaves key literal = textCode key literal := by
  cases literal with
  | string | number | bool | null =>
      rw [textCodeWith_of_isScalar leaves key rfl, h.text _ rfl]
      rfl
  | object | list | expression => rfl

/-- The same code for a literal, whatever stands for the values that are not written alone. -/
structure Same (leaves : Leaves) (literal : Literal) : Prop where
  template : templateCodeWith leaves literal = templateCode literal
  content : contentCodeWith leaves literal = contentCode literal
  items : ∀ items, literal = .list items → templateCodesWith leaves items = templateCodes items

theorem bagCode_eq (h : leaves.Proper) {entries : List (StringConstant × Literal)}
    (hsame : ∀ entry ∈ entries, Same leaves entry.2) :
    bagCodeWith leaves entries = bagCode entries := by
  induction entries with
  | nil => rfl
  | cons entry rest ih =>
      obtain ⟨key, value⟩ := entry
      rw [List.forall_mem_cons] at hsame
      rw [bagCode_cons, entryCode, ← entryKind_eq]
      unfold bagCodeWith
      rw [ih hsame.2]
      cases hkind : entryKind key.value value with
      | children =>
          cases value with
          | list items => simp only [hsame.1.items items rfl, bind_assoc, pure_bind]
          | string | number | bool | null | object | expression => rfl
      | html => simp only [h.textCode_eq, bind_assoc, pure_bind]; rfl
      | style => simp only [h.textCode_eq, bind_assoc, pure_bind]; rfl
      | child => simp only [hsame.1.content, bind_assoc, pure_bind]
      | attr =>
          rw [entryKind_eq] at hkind
          simp only [h.attr value (nested_of_ofKey hkind), bind_assoc, pure_bind]

theorem templateCodes_eq {items : List Literal} (hsame : ∀ item ∈ items, Same leaves item) :
    templateCodesWith leaves items = templateCodes items := by
  induction items with
  | nil => rfl
  | cons item rest ih =>
      rw [List.forall_mem_cons] at hsame
      rw [templateCodesWith, templateCodes_cons, hsame.1.template, ih hsame.2]

theorem same (h : leaves.Proper) (literal : Literal) : Same leaves literal := by
  induction literal using inductionOn with
  | scalar literal hscalar =>
      refine ⟨?_, ?_, by rintro items rfl; cases hscalar⟩
      · cases literal with
        | string | number | bool | null | expression => rfl
        | object | list => cases hscalar
      · cases literal with
        | string | number | bool | null =>
            rw [contentCodeWith_of_isScalar leaves rfl, h.text _ rfl]
            rfl
        | expression => rfl
        | object | list => cases hscalar
  | list items ih =>
      have hitems := templateCodes_eq ih
      refine ⟨rfl, ?_, ?_⟩
      · rw [contentCodeWith, contentCode_list, hitems]
      · rintro _ ⟨⟩
        exact hitems
  | object entries ih =>
      refine ⟨?_, ?_, by rintro _ ⟨⟩⟩
      · rcases entries with _ | ⟨⟨selector, value⟩, _ | ⟨second, rest⟩⟩
        · rfl
        · rw [templateCodeWith, templateCode_single, (ih _ List.mem_cons_self).content]
        · rfl
      · rw [contentCodeWith, contentCode_object, h.bagCode_eq ih]

end Leaves.Proper

/-- Code for a literal is the code for the literal with holes, in which the holes have been
replaced from left to right by the embedded expressions in document order. Nothing in it comes
from a container that is written as an attribute, nor from a container or an expression that is
written as a text. -/
theorem templateCode_splices {literal : Literal} {code : TemplateCode}
    (h : templateCode literal = .ok code) :
    (∃ holed, templateCode literal.hollow = .ok holed ∧
        Fills holed.trees literal.expressions code.trees) ∧
      ∀ leaves : Leaves, leaves.Proper → templateCodeWith leaves literal = .ok code := by
  refine ⟨?_, fun leaves hproper => (hproper.same literal).template.trans h⟩
  have hsplices := (splices literal).template
  rw [h] at hsplices
  generalize hholed : templateCode literal.hollow = made at hsplices
  cases hsplices with
  | ok hcode => exact ⟨_, rfl, hcode⟩

/-- Refuses containers as attributes, and marks what is no scalar. -/
def strictLeaves : Leaves where
  attr literal := if literal.isContainer then .error .malformed else attrCode literal
  text literal := if literal.isScalar then scalarText literal else .ofText "lost"

theorem strictLeaves_proper : strictLeaves.Proper where
  attr literal h := if_neg (by rw [h]; decide)
  text literal h := if_pos h

def nodeNamed (name : String) : Literal :=
  .expression ⟨[.word name]⟩

/-- A literal with expressions wherever they may stand. -/
def gallery : Literal :=
  .object [(.ofText "ul", .object [
    (.ofText "title", nodeNamed "title"), (.ofText "html", nodeNamed "text"),
    (.ofText "li.first", nodeNamed "first"), (.ofText "style", nodeNamed "css"),
    (.ofText "li", .list [nodeNamed "second", .object [(.ofText "b", nodeNamed "third")]]),
    (.ofText "children", .list [nodeNamed "second"])])]

theorem gallery_splices :
    ∃ code, templateCode gallery = .ok code ∧ templateCodeWith strictLeaves gallery = .ok code ∧
      ∃ holed, templateCode gallery.hollow = .ok holed ∧
        Fills holed.trees (["title", "text", "first", "css", "second", "third", "second"].map
          fun name => ⟨[.word name]⟩) code.trees := by
  have hcode : ∃ code, templateCode gallery = .ok code := ⟨_, rfl⟩
  obtain ⟨code, hcode⟩ := hcode
  obtain ⟨⟨holed, hholed, hfills⟩, hleaves⟩ := templateCode_splices hcode
  exact ⟨code, hcode, hleaves strictLeaves strictLeaves_proper, holed, hholed, hfills⟩

end TemplateTree.Literal
