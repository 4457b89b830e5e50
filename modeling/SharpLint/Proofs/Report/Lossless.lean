import Mathlib.Data.List.Forall2
import SharpLint.Proofs.Findings.Gathering
import SharpLint.Proofs.Json.RoundTrip
import SharpLint.Report.Document

/-!
# Documents lose nothing

Every issue, category and result is written as an object with a field for each of its parts, and
decoding that object gives it back. Results written as a document can therefore be read again
(`document_lossless`), and different results have different documents. The only condition is that
lines and columns are machine words, which is all that the decoder accepts as a count.
-/

namespace SharpLint

structure Issue.Fits (issue : Issue) : Prop where
  line : issue.line < UInt64.size
  column : issue.column < UInt64.size

def Findings.Fits (findings : Findings) : Prop := ∀ issue ∈ findings.issues, issue.Fits

theorem mapM_map_of_decodes {α : Type} {encode : α → Json} {decode : Json → Option α}
    {values : List α} (decodes : ∀ value ∈ values, decode (encode value) = some value) :
    (values.map encode).mapM decode = some values := by
  induction values with
  | nil => rfl
  | cons value values ih =>
      rw [List.forall_mem_cons] at decodes
      rw [List.map_cons, List.mapM_cons, decodes.1, ih decodes.2]
      rfl

/-! ## Issues -/

namespace Rule

theorem mem_all (rule : Rule) : rule ∈ all := by
  cases rule <;> decide

theorem ofTitle?_title (rule : Rule) : ofTitle? rule.title = some rule := by
  have each : ∀ rule ∈ all, ofTitle? rule.title = some rule := by decide +kernel
  exact each rule (mem_all rule)

end Rule

namespace Issue

theorem optionalText?_getD (detail : Option String) :
    optionalText? ((detail.map Json.string).getD .null) = some detail := by
  cases detail <;> rfl

theorem writable_toJson (issue : Issue) : issue.toJson.Writable := by
  refine .object (by simp) ?_
  have detail : Json.Writable ((issue.detail.map Json.string).getD .null) := by
    cases issue.detail with
    | none => exact .null
    | some text => exact .string text
  simp [Json.Writable.string, Json.Writable.bool, Json.Writable.count, detail]

theorem count?_of_lt {value : Nat} (small : value < UInt64.size) :
    (Json.count value).count? = some value := if_pos small

theorem ofJson?_toJson {issue : Issue} (fits : issue.Fits) : ofJson? issue.toJson = some issue := by
  simp [toJson, ofJson?, ofFields?, List.lookup_cons, ruleOfJson?, Json.string?, Json.bool?,
    Rule.ofTitle?_title, count?_of_lt fits.line, count?_of_lt fits.column, optionalText?_getD]

end Issue

/-! ## Categories and findings -/

namespace Category

theorem writable_toJson (category : Category) : category.toJson.Writable := by
  have issues : Json.Writable (.array (category.issues.map Issue.toJson)) :=
    .array (List.forall_mem_map.mpr fun issue _ => issue.writable_toJson)
  exact .object (by simp) (by simp [Json.Writable.string, issues])

theorem ofJson?_toJson {category : Category} (fits : ∀ issue ∈ category.issues, issue.Fits) :
    ofJson? category.toJson = some category := by
  have issues := mapM_map_of_decodes fun issue member => Issue.ofJson?_toJson (fits issue member)
  simp [toJson, ofJson?, Json.field?, List.lookup_cons, Json.string?, Json.array?, issues]

end Category

namespace Findings

theorem writable_toJson (findings : Findings) : findings.toJson.Writable := by
  have categories : Json.Writable (.array (findings.categories.map Category.toJson)) :=
    .array (List.forall_mem_map.mpr fun category _ => category.writable_toJson)
  exact .object (by simp) (by simp [Json.Writable.string, Json.Writable.count, categories])

theorem Fits.category {findings : Findings} (fits : findings.Fits) {category : Category}
    (member : category ∈ findings.categories) : ∀ issue ∈ category.issues, issue.Fits :=
  fun issue present => fits issue (List.mem_flatMap.mpr ⟨category, member, present⟩)

theorem ofJson?_toJson {findings : Findings} (fits : findings.Fits) :
    ofJson? findings.toJson = some findings := by
  have categories := mapM_map_of_decodes fun category (member : category ∈ findings.categories) =>
    Category.ofJson?_toJson (fits.category member)
  simp [toJson, ofJson?, Json.field?, List.lookup_cons, Json.string?, Json.array?, categories]

end Findings

/-! ## Documents -/

namespace Report

/-- The value is an object from which the findings can be decoded, with the number of their failing
issues as the total. -/
structure Holds (findings : Findings) (value : Json) : Prop where
  isObject : ∃ fields, value = .object fields
  decodes : Findings.ofJson? value = some findings
  total : value.field? "totalIssues" = some (.count (findings.issues.countP (!·.passed)))

/-- The value is the object of a single result, or else an array with the object of each result in
order. -/
structure Represents (results : List Findings) (value : Json) : Prop where
  isObject : (∃ fields, value = .object fields) ↔ results.length = 1
  single : ∀ findings, results = [findings] → Holds findings value
  several : results.length ≠ 1 → ∃ items, value = .array items ∧ List.Forall₂ Holds results items

theorem holds_toJson {findings : Findings} (fits : findings.Fits) :
    Holds findings findings.toJson where
  isObject := ⟨_, rfl⟩
  decodes := Findings.ofJson?_toJson fits
  total := by
    rw [← Findings.failedCount_eq_countP]
    rfl

theorem toJson_of_length_ne {results : List Findings} (several : results.length ≠ 1) :
    toJson results = .array (results.map Findings.toJson) := by
  rw [toJson]
  rintro findings rfl
  exact several rfl

theorem writable_toJson (results : List Findings) : (toJson results).Writable := by
  by_cases single : results.length = 1
  · obtain ⟨findings, rfl⟩ := List.length_eq_one_iff.mp single
    exact findings.writable_toJson
  · rw [toJson_of_length_ne single]
    exact .array (List.forall_mem_map.mpr fun findings _ => findings.writable_toJson)

theorem represents_toJson {results : List Findings} (fits : ∀ findings ∈ results, findings.Fits) :
    Represents results (toJson results) where
  isObject := by
    constructor
    · rintro ⟨fields, object⟩
      by_contra several
      rw [toJson_of_length_ne several] at object
      cases object
    · intro single
      obtain ⟨findings, rfl⟩ := List.length_eq_one_iff.mp single
      exact ⟨_, rfl⟩
  single := by
    rintro findings rfl
    exact holds_toJson (fits findings List.mem_cons_self)
  several := by
    intro several
    refine ⟨_, toJson_of_length_ne several, ?_⟩
    rw [List.forall₂_map_right_iff, List.forall₂_same]
    exact fun findings member => holds_toJson (fits findings member)

theorem ofJson?_toJson {results : List Findings} (fits : ∀ findings ∈ results, findings.Fits) :
    ofJson? (toJson results) = some results := by
  by_cases single : results.length = 1
  · obtain ⟨findings, rfl⟩ := List.length_eq_one_iff.mp single
    have decoded := Findings.ofJson?_toJson (fits findings List.mem_cons_self)
    rw [toJson, ofJson?, decoded]
    · rfl
    · rintro items same
      cases same
  · rw [toJson_of_length_ne single, ofJson?]
    exact mapM_map_of_decodes fun findings member =>
      Findings.ofJson?_toJson (fits findings member)

theorem parse?_document (results : List Findings) :
    Json.parse? (document results) = some (toJson results) :=
  Json.parse?_pretty_append (writable_toJson results) (by decide)

theorem read?_document {results : List Findings} (fits : ∀ findings ∈ results, findings.Fits) :
    read? (document results) = some results := by
  rw [read?, parse?_document, Option.bind_some, ofJson?_toJson fits]

/-- Issues, categories and results can be read again from what is written of them, a document has
the shape that the number of results asks for, and no two lists of results share one. -/
theorem document_lossless :
    (∀ issue : Issue, issue.Fits →
      (Json.parse? issue.toJson.pretty).bind Issue.ofJson? = some issue) ∧
    (∀ category : Category, (∀ issue ∈ category.issues, issue.Fits) →
      (Json.parse? category.toJson.pretty).bind Category.ofJson? = some category) ∧
    (∀ results : List Findings, (∀ findings ∈ results, findings.Fits) →
      ∃ value, Json.parse? (document results) = some value ∧ Represents results value ∧
        ofJson? value = some results) ∧
    ∀ results others : List Findings, (∀ findings ∈ results, findings.Fits) →
      (∀ findings ∈ others, findings.Fits) → document results = document others →
        results = others := by
  refine ⟨?_, ?_, ?_, ?_⟩
  · intro issue fits
    rw [Json.parse?_pretty issue.writable_toJson, Option.bind_some, Issue.ofJson?_toJson fits]
  · intro category fits
    rw [Json.parse?_pretty category.writable_toJson, Option.bind_some,
      Category.ofJson?_toJson fits]
  · intro results fits
    exact ⟨toJson results, parse?_document results, represents_toJson fits, ofJson?_toJson fits⟩
  · intro results others fits alsoFit same
    have first := read?_document fits
    rw [same, read?_document alsoFit] at first
    exact (Option.some.inj first).symm

namespace Sample

def awkward : Issue :=
  { rule := .fieldPrefix, description := "\"\\/", passed := false, suggestion := "\x00\x1f\x7f",
    snippet := "a\tb\r\n", line := 18446744073709551615, column := 7, category := "é\uffff😀",
    detail := some "" }

def results : List Findings :=
  [{ fileName := "" }, { fileName := "\\u0041", categories := [⟨"é\uffff😀", [awkward]⟩] }]

end Sample

open Sample in
theorem document_lossless_awkward :
    (∀ findings ∈ results, findings.Fits) ∧
    (Json.parse? awkward.toJson.pretty).bind Issue.ofJson? = some awkward ∧
    ∃ value, Json.parse? (document results) = some value ∧ Represents results value ∧
      ofJson? value = some results := by
  have fits : awkward.Fits := ⟨by decide, by decide⟩
  have allFit : ∀ findings ∈ results, findings.Fits := by
    simp [results, Findings.Fits, Findings.issues, fits]
  obtain ⟨issues, -, documents, -⟩ := document_lossless
  exact ⟨allFit, issues awkward fits, documents results allFit⟩

end Report

end SharpLint
