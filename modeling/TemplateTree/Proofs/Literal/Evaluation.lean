import Mathlib.Data.List.Forall2
import TemplateTree.Literal.Printer

/-! # What generated code comes to

Code is evaluated from its trees alone: constants, paths, calls with expressions between
commas as their arguments, and methods one after the other. Functions and methods are those
of the template library. -/

namespace TemplateTree.Literal

variable {ν : Type}

/-! ## Values -/

inductive Value (ν : Type) where
  | string (text : String)
  | integer (value : Int)
  | bool (value : Bool)
  | attr (value : AttrValue)
  | template (value : Template ν)
  | content (value : Content ν)
  | bag (value : Bag (Template ν))
  | templates (value : List (Template ν))

namespace Value

/-! What a value is converted to where a text, the value of an attribute, a template or a
content is due. -/

def text? : Value ν → Option String
  | string text => some text
  | _ => none

def attr? : Value ν → Option AttrValue
  | string text => some (.text text)
  | integer value => some (.number (.integer value))
  | bool value => some (.bool value)
  | attr value => some value
  | _ => none

def template? : Value ν → Option (Template ν)
  | template value => some value
  | _ => none

def content? : Value ν → Option (Content ν)
  | string text => some (.text text)
  | content value => some value
  | bag value => some (.bag value)
  | templates value => some (.items value)
  | template value => some (.ofTemplate value)
  | _ => none

/-- A constant of the template library. -/
def ofConstant : List String → Option (Value ν)
  | ["json2dom", "template", "AttrValue", "Null"] => some (attr .null)
  | _ => none

/-- A function of the template library. -/
def ofCall : List String → List (Value ν) → Option (Value ν)
  | ["json2dom", "template", "Template", "element"], [selector, value] => do
    return template (.element (← selector.text?) (← value.content?))
  | ["json2dom", "template", "Value", "text"], [value] => do
    return content (.text (← value.text?))
  | ["json2dom", "template", "Value", "Attributes"], [bag value] => some (content (.bag value))
  | ["json2dom", "template", "Value", "List"], [templates value] =>
    some (content (.items value))
  | ["json2dom", "template", "Attributes", "new"], [] => some (bag .empty)
  | _, _ => none

/-- A method of the bags of the template library. -/
def invoke : Value ν → String → List (Value ν) → Option (Value ν)
  | bag b, "attr", [name, value] => do return bag (b.attr (← name.text?) (← value.attr?))
  | bag b, "html", [text] => do return bag (b.html (← text.text?))
  | bag b, "style", [css] => do return bag (b.style (← css.text?))
  | bag b, "child", [value] => do return bag (b.addChild (← value.template?))
  | bag b, "children", [templates value] => some (bag (b.addChildren value))
  | _, _, _ => none

end Value

/-! ## Evaluation -/

/-- A tree in which a group is replaced by what the expressions between its commas come to. -/
inductive Token (ν : Type) where
  | word (text : String)
  | mark (c : Char) (joint : Bool)
  | constant (value : Constant)
  | group (delimiter : Delimiter) (values : Option (List (Value ν)))

def Token.isComma : Token ν → Bool
  | mark c _ => c == ','
  | _ => false

/-- An integer with a type of 64 bits. The sign is a token of its own. -/
def NumberConstant.integer? (negative : Bool) (n : NumberConstant) : Option (Value ν) :=
  if n.float = false ∧ n.suffix = "i64" then do
    let magnitude ← n.digits.toNat?
    let value : Int := if negative then -magnitude else magnitude
    if -(twoTo 63 : Int) ≤ value ∧ value < twoTo 63 then some (.integer value) else none
  else none

/-- The names of a path, and what follows it. -/
def readPath : List (Token ν) → List String × List (Token ν)
  | .mark ':' true :: .mark ':' false :: .word name :: rest =>
    (name :: (readPath rest).1, (readPath rest).2)
  | rest => ([], rest)

namespace Value

/-- The value after methods have been called on it. -/
def chain (value : Value ν) : List (Token ν) → Option (Value ν)
  | [] => some value
  | .mark '.' false :: .word name :: .group .paren (some arguments) :: rest => do
    chain (← value.invoke name arguments) rest
  | _ => none

/-- What a path comes to with what follows it. -/
def ofPath (names : List String) : List (Token ν) → Option (Value ν)
  | [] => ofConstant names
  | .group .paren (some arguments) :: rest => do chain (← ofCall names arguments) rest
  | [.mark '!' _, .group .bracket (some items)] =>
    if names = ["std", "vec"] then do return templates (← items.mapM template?) else none
  | _ => none

def ofTokens : List (Token ν) → Option (Value ν)
  | [.constant (.string text)] => some (string text.value)
  | [.constant (.number value)] => value.integer? false
  | [.mark '-' _, .constant (.number value)] => value.integer? true
  | [.word "true"] => some (bool true)
  | [.word "false"] => some (bool false)
  | tokens => ofPath (readPath tokens).1 (readPath tokens).2

/-- What the expressions between commas come to. -/
def ofArguments (tokens : List (Token ν)) : Option (List (Value ν)) :=
  if tokens.isEmpty then some [] else (tokens.splitOnP Token.isComma).mapM ofTokens

end Value

mutual

def Tree.token : Tree → Token ν
  | .word text => .word text
  | .mark c joint => .mark c joint
  | .constant value => .constant value
  | .group delimiter trees => .group delimiter (Value.ofArguments (Tree.tokens trees))

def Tree.tokens : List Tree → List (Token ν)
  | [] => []
  | tree :: rest => tree.token :: Tree.tokens rest

end

/-- What code comes to, if it is an expression with a value. -/
def Tree.evaluate (trees : List Tree) : Option (Value ν) :=
  Value.ofTokens (Tree.tokens trees)

theorem Tree.tokens_append (first second : List Tree) :
    (tokens (first ++ second) : List (Token ν)) = tokens first ++ tokens second := by
  induction first with
  | nil => rfl
  | cons tree rest ih => rw [List.cons_append, tokens, tokens, ih, List.cons_append]

/-! ## Expressions with a value -/

section

variable {tokens : List (Token ν)} {value : Value ν}

theorem readPath_rootPath (names : List String) (h : readPath tokens = ([], tokens)) :
    readPath (Tree.tokens (rootPath names) ++ tokens) = (names, tokens) := by
  induction names with
  | nil => exact h
  | cons name names ih =>
      show readPath (Token.mark ':' true :: .mark ':' false :: .word name ::
        (Tree.tokens (rootPath names) ++ tokens)) = _
      rw [readPath, ih]

theorem not_isComma_of_readPath (h : ∀ token ∈ (readPath tokens).2, token.isComma = false) :
    ∀ token ∈ tokens, token.isComma = false := by
  fun_induction readPath tokens with
  | case1 name rest ih =>
      intro token ht
      simp only [List.mem_cons] at ht
      rcases ht with rfl | rfl | rfl | ht
      · rfl
      · rfl
      · rfl
      · exact ih h token ht
  | case2 => exact h

theorem not_isComma_of_chain {result : Value ν} (h : value.chain tokens = some result) :
    ∀ token ∈ tokens, token.isComma = false := by
  fun_induction Value.chain value tokens with
  | case1 => exact nofun
  | case2 value name arguments rest ih =>
      obtain ⟨next, -, hnext⟩ := Option.bind_eq_some_iff.mp h
      intro token ht
      simp only [List.mem_cons] at ht
      rcases ht with rfl | rfl | rfl | ht
      · rfl
      · rfl
      · rfl
      · exact ih next hnext token ht
  | case3 => cases h

theorem not_isComma_of_ofPath {names : List String} (h : Value.ofPath names tokens = some value) :
    ∀ token ∈ tokens, token.isComma = false := by
  unfold Value.ofPath at h
  split at h
  · exact nofun
  · obtain ⟨next, -, hnext⟩ := Option.bind_eq_some_iff.mp h
    exact List.forall_mem_cons.mpr ⟨rfl, not_isComma_of_chain hnext⟩
  · exact List.forall_mem_cons.mpr ⟨rfl, List.forall_mem_singleton.mpr rfl⟩
  · cases h

/-- An expression with a value has no commas outside of its groups. -/
theorem not_isComma_of_ofTokens (h : Value.ofTokens tokens = some value) :
    ∀ token ∈ tokens, token.isComma = false := by
  unfold Value.ofTokens at h
  split at h
  · exact List.forall_mem_singleton.mpr rfl
  · exact List.forall_mem_singleton.mpr rfl
  · exact List.forall_mem_cons.mpr ⟨rfl, List.forall_mem_singleton.mpr rfl⟩
  · exact List.forall_mem_singleton.mpr rfl
  · exact List.forall_mem_singleton.mpr rfl
  · exact not_isComma_of_readPath (not_isComma_of_ofPath h)

end

/-! ## Code of calls -/

/-- The expressions have these values. -/
abbrev Evaluates (code : List (List Tree)) (values : List (Value ν)) : Prop :=
  List.Forall₂ (fun trees value => Tree.evaluate trees = some value) code values

section

variable {code : List (List Tree)} {values : List (Value ν)}

theorem Evaluates.splitOnP (h : Evaluates code values) (hne : code ≠ []) :
    (Tree.tokens ([Tree.mark ',' false].intercalate code) : List (Token ν)).splitOnP
      Token.isComma = code.map Tree.tokens := by
  induction h with
  | nil => exact absurd rfl hne
  | @cons trees value code values htrees hcode ih =>
      -- The commas of the first expression are inside its groups, which are one token each.
      have hfree := not_isComma_of_ofTokens htrees
      cases code with
      | nil =>
          rw [List.intercalate_singleton]
          exact List.splitOnP_eq_singleton hfree
      | cons second rest =>
          rw [List.intercalate_cons_cons, List.append_assoc, Tree.tokens_append, List.map_cons,
            ← ih (List.cons_ne_nil _ _)]
          exact List.splitOnP_append_cons_of_forall_mem hfree _ rfl _

theorem Evaluates.mapM (h : Evaluates code values) :
    (code.map Tree.tokens).mapM Value.ofTokens = some values := by
  induction h with
  | nil => rfl
  | cons htrees _ ih =>
      rw [List.map_cons, List.mapM_cons, ih]
      exact congrArg (Option.bind · _) htrees

theorem Evaluates.ofArguments (h : Evaluates code values) :
    Value.ofArguments (Tree.tokens ([Tree.mark ',' false].intercalate code)) = some values := by
  by_cases hne : code = []
  · subst hne
    cases h
    rfl
  · have hsplit := h.splitOnP hne
    have htokens : (Tree.tokens ([Tree.mark ',' false].intercalate code) : List (Token ν)) ≠ [] := by
      intro he
      rw [he, List.splitOnP_nil] at hsplit
      obtain ⟨trees, rest, rfl, hnil, -⟩ := List.map_eq_cons_iff.mp hsplit.symm
      cases h with
      | cons htrees _ =>
          rw [Tree.evaluate, hnil] at htrees
          cases htrees
    rw [Value.ofArguments, if_neg (by simpa using htokens), hsplit, h.mapM]

theorem tokens_call (function : List Tree) (h : Evaluates code values) :
    (Tree.tokens (call function code) : List (Token ν)) =
      Tree.tokens function ++ [.group .paren (some values)] := by
  rw [call, Tree.tokens_append, Tree.tokens, Tree.token, h.ofArguments, Tree.tokens]

theorem ofTokens_rootPath {names : List String} (hnames : names ≠ []) {rest : List (Token ν)}
    (hrest : readPath rest = ([], rest)) :
    Value.ofTokens (Tree.tokens (rootPath names) ++ rest) = Value.ofPath names rest := by
  have hpath := readPath_rootPath names hrest
  cases names with
  | nil => exact absurd rfl hnames
  | cons name names =>
      show Value.ofPath (readPath (Tree.tokens (rootPath (name :: names)) ++ rest)).1
        (readPath (Tree.tokens (rootPath (name :: names)) ++ rest)).2 = _
      rw [hpath]

/-- A call of a function, with methods behind it. -/
theorem evaluate_call_append {names : List String} (hnames : names ≠ [])
    (h : Evaluates code values) (methods : List Tree) :
    Tree.evaluate (call (rootPath names) code ++ methods) = (do
      Value.chain (← Value.ofCall names values) (Tree.tokens methods)) := by
  rw [Tree.evaluate, Tree.tokens_append, tokens_call _ h, List.append_assoc,
    ofTokens_rootPath hnames rfl]
  rfl

theorem evaluate_call {names : List String} (hnames : names ≠ []) (h : Evaluates code values) :
    Tree.evaluate (call (rootPath names) code) = Value.ofCall names values := by
  have happend := evaluate_call_append hnames h []
  rw [List.append_nil] at happend
  rw [happend]
  cases Value.ofCall names values <;> rfl

theorem chain_method (value : Value ν) (name : String) (h : Evaluates code values)
    (methods : List Tree) :
    value.chain (Tree.tokens (method name code ++ methods)) = (do
      Value.chain (← value.invoke name values) (Tree.tokens methods)) := by
  rw [method, List.cons_append, Tree.tokens, Tree.tokens_append, tokens_call _ h]
  rfl

theorem mapM_template? (templates : List (Template ν)) :
    (templates.map Value.template).mapM Value.template? = some templates := by
  induction templates with
  | nil => rfl
  | cons template rest ih =>
      rw [List.map_cons, List.mapM_cons, ih]
      rfl

theorem evaluate_listTrees {templates : List (Template ν)}
    (h : Evaluates code (templates.map Value.template)) :
    Tree.evaluate (listTrees code) = some (Value.templates templates) := by
  have htokens : (Tree.tokens [.mark '!' false, .group .bracket
      ([Tree.mark ',' false].intercalate code)] : List (Token ν)) =
        [.mark '!' false, .group .bracket (some (templates.map Value.template))] := by
    rw [Tree.tokens, Tree.tokens, Tree.tokens, Tree.token, Tree.token, h.ofArguments]
  rw [Tree.evaluate, listTrees, Tree.tokens_append, ofTokens_rootPath (by decide) rfl, htokens,
    Value.ofPath, if_pos rfl, mapM_template?]
  rfl

end

end TemplateTree.Literal
