import TemplateTree.Proofs.Json.Numeral
import TemplateTree.Proofs.Literal.Equations
import TemplateTree.Proofs.Literal.Numeral

/-! # Numbers as text

A number may stand for text: as content, under `html` and under `style`. A literal copies the
number as it is written, and JSON prints the number that was read. -/

namespace TemplateTree

/-! ## The places of a text -/

/-- The code for a literal holds this text in every place of one. -/
structure Literal.StandsFor (literal : Literal) (text : String) : Prop where
  content : contentCode literal = .ok (.text (.ofText text))
  html {key : StringConstant} (h : key.value = htmlKey) (rest : List (StringConstant × Literal)) :
    bagCode ((key, literal) :: rest) =
      (bagCode rest).map fun calls => .html (.string (.ofText text)) :: calls
  style {key : StringConstant} (h : key.value = styleKey)
      (rest : List (StringConstant × Literal)) :
    bagCode ((key, literal) :: rest) =
      (bagCode rest).map fun calls => .style (.string (.ofText text)) :: calls

/-- A JSON value is converted to this text in every place of one. -/
structure Json.StandsFor (ν : Type) (json : Json) (text : String) : Prop where
  content (selector : String) :
    (Content.ofJson selector json : Except TemplateFault (Content ν)) = .ok (.text text)
  html (selector : String) (bag : Bag (Template ν)) (rest : List (String × Json)) :
    Content.bagOfJson selector bag ((htmlKey, json) :: rest) =
      Content.bagOfJson selector (bag.html text) rest
  style (selector : String) (bag : Bag (Template ν)) (rest : List (String × Json)) :
    Content.bagOfJson selector bag ((styleKey, json) :: rest) =
      Content.bagOfJson selector (bag.style text) rest

theorem Literal.standsFor_number (constant : NumberConstant) :
    StandsFor (.number constant) constant.text where
  content := rfl
  html := by
    rintro ⟨_, source⟩ rfl rest
    rw [bagCode_cons]
    cases bagCode rest <;> rfl
  style := by
    rintro ⟨_, source⟩ rfl rest
    rw [bagCode_cons]
    cases bagCode rest <;> rfl

theorem Json.standsFor_number (ν : Type) (number : Number) :
    StandsFor ν (.number number) number.display where
  content _ := rfl
  html selector bag rest := by
    rw [Content.bagOfJson]
    · rfl
    · rintro items ⟨⟩
  style selector bag rest := by
    rw [Content.bagOfJson]
    · rfl
    · rintro items ⟨⟩

/-! ## Printed numbers -/

theorem Decimal.exists_mark (d : Decimal) : ∃ c ∈ ['.', 'e'], c ∈ d.text := by
  unfold text
  dsimp only
  split
  · exact ⟨'.', by decide, by decide⟩
  split
  · exact ⟨'.', by decide, by simp⟩
  split
  · exact ⟨'.', by decide, by simp⟩
  · exact ⟨'e', by decide, by simp⟩

/-- A float is never printed like an integer. -/
theorem Double.exists_mark (x : Double) : ∃ c ∈ ['.', 'e'], c ∈ x.display.toList := by
  obtain ⟨c, hc, hmem⟩ := x.magnitude.shortest.exists_mark
  refine ⟨c, hc, ?_⟩
  rw [display, String.toList_ofList]
  cases x.negative with
  | false => exact hmem
  | true => exact List.mem_cons_of_mem '-' hmem

/-- The double that a text is read as is printed like this. -/
def PrintsAs (token text : String) : Prop :=
  ∃ x : Double, Json.parse token = .ok (.number (.float x)) ∧ x.display = text

theorem printsAs_of_eq_true {token text : String}
    (h : (match Json.parse token with
      | .ok (.number (.float x)) => x.display == text
      | _ => false) = true) : PrintsAs token text := by
  split at h
  · next x hparse => exact ⟨x, hparse, eq_of_beq h⟩
  · cases h

namespace Literal

variable {token : String} {number : Number}

/-- The text of an integer of 64 bits. Minus zero is not one. -/
def IsExactText (token : String) : Prop :=
  ∃ value, Number.exactInteger value ∧ token = toString value

/-- Whether a number has a fraction or an exponent. -/
def HasMark (token : String) : Prop :=
  ∃ c ∈ ['.', 'e', 'E'], c ∈ token.toList

/-- A number as a literal copies it: an exponent mark is made small, and a plus sign is left
out. -/
def copied (token : String) : String :=
  String.ofList (spelled token.toList)

/-! ## Numbers as they are written -/

theorem numeralConstant_text_eq {numeral : Numeral} (htoken : token.toList = numeral.chars) :
    (numeralConstant numeral).text = copied token := by
  rw [numeralConstant_text, copied, htoken]

theorem parse_copied (hparse : Json.parse token = .ok (.number number))
    (hblank : ∀ c ∈ token.toList, Json.Reader.isBlank c = false) :
    ∃ constant, parse token = .ok (.number constant) ∧ constant.suffix = "" ∧
      constant.text = copied token := by
  obtain ⟨numeral, -, htoken, -⟩ := Json.parse_number hparse hblank
  exact ⟨numeralConstant numeral, parse_numeral numeral htoken, rfl,
    numeralConstant_text_eq htoken⟩

section

variable {numeral : Numeral}

theorem isExactText_iff (htoken : token.toList = numeral.chars) :
    IsExactText token ↔ numeral.IsExact := by
  rw [Numeral.isExact_iff, ← htoken]
  simp only [IsExactText, String.toList_inj]

theorem hasMark_iff (htoken : token.toList = numeral.chars) :
    HasMark token ↔ ¬ numeral.isInteger := by
  have hmarks : ∀ c ∈ ['.', 'e', 'E'], c ≠ '-' := by simp
  rw [Numeral.isInteger_iff, HasMark, htoken]
  push Not
  exact exists_congr fun c => and_congr_right fun hc => numeral.mem_chars_iff (hmarks c hc)

theorem copied_of_isInteger (htoken : token.toList = numeral.chars) (h : numeral.isInteger) :
    copied token = token := by
  rw [copied, spelled_eq_self, String.ofList_toList]
  intro c hc
  rw [htoken] at hc
  by_cases hminus : c = '-'
  · rw [hminus]
    decide
  · rw [numeral.mem_chars_iff hminus, Numeral.unsigned_of_isInteger h] at hc
    have hdigit := numeral.isWhole.digit c hc
    exact ⟨ne_of_isDigit hdigit (by decide), ne_of_isDigit hdigit (by decide)⟩

theorem display_ne_copied (htoken : token.toList = numeral.chars) (h : numeral.isInteger)
    (x : Double) : copied token ≠ x.display := by
  obtain ⟨c, hc, hmem⟩ := x.exists_mark
  intro heq
  rw [copied_of_isInteger htoken h] at heq
  have hmark : HasMark token := ⟨c, List.mem_append_left ['E'] hc, heq ▸ hmem⟩
  exact (hasMark_iff htoken).mp hmark h

end

/-- Where a number stands for text, a literal copies it and JSON prints what it reads. -/
theorem number_texts (ν : Type) (hparse : Json.parse token = .ok (.number number))
    (hblank : ∀ c ∈ token.toList, Json.Reader.isBlank c = false) :
    (∃ constant, parse token = .ok (.number constant) ∧ constant.suffix = "" ∧
      StandsFor (.number constant) (copied token)) ∧
    Json.StandsFor ν (.number number) number.display ∧
    (IsExactText token → copied token = token ∧ number.display = token) ∧
    (¬ IsExactText token → ∃ x, number = .float x) ∧
    (copied token = number.display ↔
      IsExactText token ∨
        HasMark token ∧ ∃ x, number = .float x ∧ copied token = x.display) := by
  obtain ⟨constant, hconstant, hsuffix, htext⟩ := parse_copied hparse hblank
  obtain ⟨numeral, hread, htoken, -⟩ := Json.parse_number hparse hblank
  have hexact (h : IsExactText token) : copied token = token ∧ number.display = token := by
    rw [isExactText_iff htoken] at h
    refine ⟨copied_of_isInteger htoken h.1, ?_⟩
    cases number with
    | integer value =>
        rw [Number.display, hread.2, ← String.toList_inj, ← h.chars_eq, htoken]
    | float x => exact absurd h hread
  have hfloat (h : ¬ IsExactText token) : ∃ x, number = .float x := by
    rw [isExactText_iff htoken] at h
    cases number with
    | integer value => exact absurd hread.1 h
    | float x => exact ⟨x, rfl⟩
  refine ⟨⟨constant, hconstant, hsuffix, htext ▸ standsFor_number constant⟩,
    Json.standsFor_number ν number, hexact, hfloat, ?_, ?_⟩
  · intro heq
    refine or_iff_not_imp_left.mpr fun hinexact => ?_
    obtain ⟨x, rfl⟩ := hfloat hinexact
    refine ⟨(hasMark_iff htoken).mpr fun h => display_ne_copied htoken h x heq, x, rfl, heq⟩
  · rintro (h | ⟨-, x, rfl, heq⟩)
    · exact (hexact h).1.trans (hexact h).2.symm
    · exact heq

theorem smallNumber_texts :
    ∃ number, Json.parse "2.5E-7" = .ok (.number number) ∧
      (∀ c ∈ "2.5E-7".toList, Json.Reader.isBlank c = false) ∧
      (∃ constant, parse "2.5E-7" = .ok (.number constant) ∧ constant.suffix = "" ∧
        StandsFor (.number constant) "2.5e-7") ∧
      Json.StandsFor String (.number number) "2.5e-7" := by
  obtain ⟨x, hparse, hdisplay⟩ : PrintsAs "2.5E-7" "2.5e-7" :=
    printsAs_of_eq_true (by decide +kernel)
  have hblank : ∀ c ∈ "2.5E-7".toList, Json.Reader.isBlank c = false := by
    simp [Json.Reader.isBlank]
  have hcopied : copied "2.5E-7" = "2.5e-7" := by decide
  obtain ⟨hliteral, hjson, -⟩ := number_texts String hparse hblank
  rw [hcopied] at hliteral
  rw [Number.display, hdisplay] at hjson
  exact ⟨_, hparse, hblank, hliteral, hjson⟩

/-- Zeros at the end of a number are copied and not printed. -/
theorem number_texts_differ :
    ¬ ∀ (token : String) (number : Number) (constant : NumberConstant),
      Json.parse token = .ok (.number number) → parse token = .ok (.number constant) →
      constant.suffix = "" →
      (scalarText (.number constant)).value = (Json.number number).scalarText := by
  intro h
  obtain ⟨x, hparse, hdisplay⟩ : PrintsAs "1.50" "1.5" := printsAs_of_eq_true (by decide +kernel)
  have hblank : ∀ c ∈ "1.50".toList, Json.Reader.isBlank c = false := by simp [Json.Reader.isBlank]
  obtain ⟨constant, hread, hsuffix, htext⟩ := parse_copied hparse hblank
  have heq : constant.text = x.display := h "1.50" (.float x) constant hparse hread hsuffix
  have hne : copied "1.50" ≠ "1.5" := by decide
  exact hne (htext.symm.trans (heq.trans hdisplay))

end Literal

end TemplateTree
