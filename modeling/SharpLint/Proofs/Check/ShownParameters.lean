import Mathlib.Data.List.Forall2
import SharpLint.Proofs.Check.Renaming

/-!
# Parameters that strings show

A parameter is shown when a string in the body of its method has a placeholder with its name
(`Displays`, `FirstNamed`). The check reports each such parameter once, however often it is shown
(`shown_parameters_reported_once`). The rules on parameters object to it as well and propose the
same name, unless it is called by underscores alone (`shown_parameters_misnamed`): such a name marks
a parameter that nobody uses, and only the rule on shown parameters objects to it
(`discarded_parameter_reported`).
-/

namespace SharpLint.Check.Naming

open Names Text

variable {keywords : KeywordTable} {method : Node} {parameter : Token} {index : Nat} {issue : Issue}

def Displays (method : Node) (placeholder : String) : Prop :=
  ∃ body, method.body? = some body ∧ ∃ literal : Node, literal.Below body ∧
    (literal.kind = .stringLiteral ∨ literal.kind = .interpolatedString) ∧
    ∃ text, literal.text = some text ∧ placeholder ∈ placeholdersOf text

/-- The parameter with the index is the first one that has the name, up to the case of letters. -/
def FirstNamed (parameters : List Token) (name : String) (index : Nat) : Prop :=
  (∃ parameter, parameters[index]? = some parameter ∧
    sameIgnoringCase (bareName parameter) name = true) ∧
  ∀ earlier < index, ∀ parameter, parameters[earlier]? = some parameter →
    sameIgnoringCase (bareName parameter) name = false

/-- The issue is a failure of the rule on shown parameters, at the token of the parameter. -/
structure Accuses (issue : Issue) (parameter : Token) : Prop where
  rule : issue.rule = .placeholderParameter
  failing : issue.passed = false
  line : issue.line = parameter.span.startLine
  column : issue.column = parameter.span.startColumn
  snippet : issue.snippet = parameter.text

/-! ## What is shown -/

theorem mem_bodyPlaceholders {body : Node} {placeholder : String} :
    placeholder ∈ bodyPlaceholders body ↔ ∃ literal : Node, literal.Below body ∧
      (literal.kind = .stringLiteral ∨ literal.kind = .interpolatedString) ∧
      ∃ text, literal.text = some text ∧ placeholder ∈ placeholdersOf text := by
  rw [bodyPlaceholders, List.mem_flatMap]
  refine exists_congr fun literal => ?_
  rw [Tree.mem_descendants]
  refine and_congr_right fun _ => ?_
  by_cases isString : literal.kind = .stringLiteral ∨ literal.kind = .interpolatedString
  · rw [if_pos (by simpa using isString), and_iff_right isString]
    cases literal.text with
    | none => simp
    | some text => simp
  · rw [if_neg (by simpa using isString)]
    simp [isString]

theorem shownParameter?_eq_some {parameters : List Token} {placeholder : String} :
    shownParameter? parameters placeholder = some index ↔
      FirstNamed parameters placeholder index := by
  rw [shownParameter?, List.findIdx?_eq_some_iff_getElem]
  constructor
  · rintro ⟨inside, same, first⟩
    refine ⟨⟨_, List.getElem?_eq_getElem inside, same⟩, ?_⟩
    intro earlier before parameter found
    obtain ⟨_, rfl⟩ := List.getElem?_eq_some_iff.mp found
    simpa using first earlier before
  · rintro ⟨⟨parameter, found, same⟩, first⟩
    obtain ⟨inside, rfl⟩ := List.getElem?_eq_some_iff.mp found
    refine ⟨inside, same, ?_⟩
    intro earlier before
    simpa using first earlier before _ (List.getElem?_eq_getElem _)

theorem mem_shownParameters_iff :
    index ∈ shownParameters method ↔
      ∃ placeholder, Displays method placeholder ∧
        FirstNamed method.label.parameters placeholder index := by
  simp only [mem_shownParameters, mem_bodyPlaceholders, shownParameter?_eq_some, Displays]
  constructor
  · rintro ⟨body, found, placeholder, listed, first⟩
    exact ⟨placeholder, ⟨body, found, listed⟩, first⟩
  · rintro ⟨placeholder, ⟨body, found, listed⟩, first⟩
    exact ⟨body, found, placeholder, listed, first⟩

/-! ## What is reported -/

theorem placeholderIssue?_eq_some :
    placeholderIssue? keywords method parameter index = some issue ↔
      (index ∈ shownParameters method ∧ bareName parameter ≠ "_" ∧
        Misspelled keywords isCamelCase (bareName parameter)) ∧
      issue = rename .placeholderParameter parameter
        s!"Parameter '{bareName parameter}' is used in a string placeholder but is not camelCase"
        (toCamelCase (bareName parameter)) := by
  rw [placeholderIssue?, Option.ite_none_left_eq_some, Option.some.injEq, eq_comm (b := issue)]
  refine and_congr_left fun _ => ?_
  simp [Misspelled, and_assoc]

theorem accuses_of_placeholderIssue?
    (reported : placeholderIssue? keywords method parameter index = some issue) :
    Accuses issue parameter := by
  obtain ⟨-, rfl⟩ := placeholderIssue?_eq_some.mp reported
  exact ⟨rfl, rfl, rfl, rfl, rfl⟩

def numberedIssues (keywords : KeywordTable) (method : Node) : List (Nat × Issue) :=
  method.label.parameters.zipIdx.filterMap fun numbered =>
    (placeholderIssue? keywords method numbered.1 numbered.2).map (numbered.2, ·)

theorem map_snd_numberedIssues (keywords : KeywordTable) (method : Node) :
    (numberedIssues keywords method).map (·.2) = placeholderIssues keywords method := by
  rw [numberedIssues, List.map_filterMap, placeholderIssues_eq]
  simp [Function.comp_def]

theorem mem_numberedIssues :
    (index, issue) ∈ numberedIssues keywords method ↔
      ∃ parameter, method.label.parameters[index]? = some parameter ∧
        placeholderIssue? keywords method parameter index = some issue := by
  simp [numberedIssues, List.mk_mem_zipIdx_iff_getElem?]

theorem mem_placeholderIssues_iff :
    issue ∈ placeholderIssues keywords method ↔
      ∃ index parameter, method.label.parameters[index]? = some parameter ∧
        placeholderIssue? keywords method parameter index = some issue := by
  simp [← map_snd_numberedIssues, mem_numberedIssues]

theorem pairwise_numberedIssues (keywords : KeywordTable) (method : Node) :
    (numberedIssues keywords method).Pairwise (·.1 < ·.1) := by
  have numbers : method.label.parameters.zipIdx.Pairwise (·.2 < ·.2) := by
    rw [← List.pairwise_map (f := Prod.snd), List.zipIdx_map_snd]
    exact List.pairwise_lt_range'
  rw [numberedIssues, List.pairwise_filterMap]
  refine numbers.imp ?_
  rintro first second before _ reported _ alsoReported
  obtain ⟨_, -, rfl⟩ := Option.map_eq_some_iff.mp reported
  obtain ⟨_, -, rfl⟩ := Option.map_eq_some_iff.mp alsoReported
  exact before

theorem placeholderIssues_congr {other : Node}
    (parameters : other.label.parameters = method.label.parameters)
    (displays : ∀ placeholder, Displays other placeholder ↔ Displays method placeholder) :
    placeholderIssues keywords other = placeholderIssues keywords method := by
  have shown (index : Nat) : (shownParameters other).contains index =
      (shownParameters method).contains index := by
    rw [Bool.eq_iff_iff, List.contains_iff_mem, List.contains_iff_mem, mem_shownParameters_iff,
      mem_shownParameters_iff, parameters]
    simp only [displays]
  rw [placeholderIssues_eq, placeholderIssues_eq, parameters]
  simp only [placeholderIssue?, shown]

/-- Without a body there is nothing to report. Otherwise the parameters that are shown under a bad
name are reported in order, each of them once and at its own token; how often and where the strings
show them makes no difference. -/
theorem shown_parameters_reported_once (keywords : KeywordTable) (method : Node) :
    (method.body? = none → placeholderIssues keywords method = []) ∧
    (∃ reported : List Nat, reported.Pairwise (· < ·) ∧
      (∀ index, index ∈ reported ↔
        (∃ placeholder, Displays method placeholder ∧
          FirstNamed method.label.parameters placeholder index) ∧
        ∃ parameter, method.label.parameters[index]? = some parameter ∧
          bareName parameter ≠ "_" ∧ Misspelled keywords isCamelCase (bareName parameter)) ∧
      List.Forall₂ (fun index issue => ∃ parameter,
          method.label.parameters[index]? = some parameter ∧ Accuses issue parameter)
        reported (placeholderIssues keywords method)) ∧
    ∀ other : Node, other.label.parameters = method.label.parameters →
      (∀ placeholder, Displays other placeholder ↔ Displays method placeholder) →
      placeholderIssues keywords other = placeholderIssues keywords method := by
  refine ⟨?_, ⟨(numberedIssues keywords method).map (·.1), ?_, ?_, ?_⟩, ?_⟩
  · intro none
    rw [placeholderIssues, none]
  · exact List.pairwise_map.mpr (pairwise_numberedIssues keywords method)
  · intro index
    simp only [List.mem_map, Prod.exists, exists_and_right, exists_eq_right, mem_numberedIssues,
      placeholderIssue?_eq_some, ← mem_shownParameters_iff]
    constructor
    · rintro ⟨_, parameter, found, ⟨shown, named, misspelled⟩, rfl⟩
      exact ⟨shown, parameter, found, named, misspelled⟩
    · rintro ⟨shown, parameter, found, named, misspelled⟩
      exact ⟨_, parameter, found, ⟨shown, named, misspelled⟩, rfl⟩
  · rw [← map_snd_numberedIssues, List.forall₂_map_left_iff, List.forall₂_map_right_iff,
      List.forall₂_same]
    rintro ⟨index, issue⟩ member
    obtain ⟨parameter, found, reported⟩ := mem_numberedIssues.mp member
    exact ⟨parameter, found, accuses_of_placeholderIssue? reported⟩
  · exact fun other => placeholderIssues_congr

namespace Sample

def printing (parameter text : String) : Node :=
  .node { kind := .methodDecl, parameters := [⟨parameter, {}⟩] }
    [.node { kind := .block } [Node.leaf .stringLiteral {} text]]

def once : Node := printing "Count" "\"\x7bcount\x7d\""

def twice : Node := printing "Count" "\"\x7bcount\x7d of \x7bcount:x\x7d\""

theorem displays_printing {parameter text placeholder : String} :
    Displays (printing parameter text) placeholder ↔ placeholder ∈ placeholdersOf text := by
  have body : (printing parameter text).body? =
      some (.node { kind := .block } [Node.leaf .stringLiteral {} text]) := rfl
  simp only [Displays, body, ← mem_bodyPlaceholders, Option.some.injEq, exists_eq_left']
  rw [bodyPlaceholders, Tree.descendants_eq, Tree.children, List.flatMap_singleton, Tree.reached_eq]
  simp [Node.leaf, Node.kind, Node.text, Tree.label, Tree.children]

end Sample

open Sample in
theorem shown_parameters_reported_once_twice :
    (placeholderIssues {} once).map (·.snippet) = ["Count"] ∧
      placeholderIssues {} twice = placeholderIssues {} once := by
  obtain ⟨-, -, congruent⟩ := shown_parameters_reported_once {} once
  refine ⟨by decide +kernel, congruent twice rfl ?_⟩
  intro placeholder
  have names : placeholdersOf "\"\x7bcount\x7d\"" = ["count"] := by decide
  have repeated : placeholdersOf "\"\x7bcount\x7d of \x7bcount:x\x7d\"" = ["count", "count"] := by
    decide
  rw [once, twice, displays_printing, displays_printing, names, repeated]
  simp

/-! ## What the rules on parameters say -/

/-- The rules on parameters report the parameter once and propose the name. -/
def ReportedAs (keywords : KeywordTable) (parameter : Token) (replacement : String) : Prop :=
  ∃ rule description, (rule = .parameterCamelCase ∨ rule = .parameterUnderscore) ∧
    parameterIssues keywords parameter = [rename rule parameter description replacement] ∧
    ∀ issue ∈ parameterIssues keywords parameter,
      issue.rule = rule ∧ Proposes issue parameter replacement

theorem reportedAs_of_eq {rule : Rule} {description replacement : String}
    (onParameters : rule = .parameterCamelCase ∨ rule = .parameterUnderscore)
    (reported : parameterIssues keywords parameter =
      [rename rule parameter description replacement]) :
    ReportedAs keywords parameter replacement := by
  refine ⟨rule, description, onParameters, reported, ?_⟩
  intro issue listed
  rw [reported] at listed
  rw [List.mem_singleton.mp listed]
  exact ⟨rfl, proposes_rename _ _ _ _⟩

theorem words_dropWhile (cs : List Char) : words (cs.dropWhile (· == '_')) = words cs := by
  have skipped : isAlphanumeric '_' = false := by decide
  induction cs with
  | nil => rfl
  | cons c cs ih =>
      by_cases underscore : c = '_'
      · rw [underscore, List.dropWhile_cons_of_pos (by rfl), ih, words_cons_of_not skipped]
      · rw [List.dropWhile_cons_of_neg (by simpa using underscore)]

theorem toCamelCase_dropWhile {name : String} (wordlike : Wordlike name.toList)
    (left : name.toList.dropWhile (· == '_') ≠ []) :
    toCamelCase (String.ofList (name.toList.dropWhile (· == '_'))) = toCamelCase name := by
  -- Underscores belong to no word, but a name without words is given back with all of them.
  have inhabited : words name.toList ≠ [] := by
    rw [ne_eq, words_eq_nil_iff, wordlike.find?_eq_none_iff]
    simpa [List.dropWhile_eq_nil_iff] using left
  obtain ⟨first, rest, split⟩ := List.exists_cons_of_ne_nil inhabited
  rw [toCamelCase, toCamelCase, String.toList_ofList, words_dropWhile, split]

theorem parameterIssues_of_misspelled (identifier : isIdentifier parameter.text = true)
    (misspelled : Misspelled keywords isCamelCase (bareName parameter)) :
    (∀ c ∈ (bareName parameter).toList, c = '_') ∧ parameterIssues keywords parameter = [] ∨
      (¬∀ c ∈ (bareName parameter).toList, c = '_') ∧
        ReportedAs keywords parameter (toCamelCase (bareName parameter)) := by
  have named := isIdentifierName_bareName identifier
  have wordlike := wordlike_of_isIdentifierName named
  by_cases marked : startsWith (· == '_') (bareName parameter).toList = true
  · cases left : (bareName parameter).toList.dropWhile (· == '_') with
    | nil =>
        refine .inl ⟨by simpa [List.dropWhile_eq_nil_iff] using left, ?_⟩
        simp only [parameterIssues, if_pos marked, left]
    | cons c cs =>
        have something : (bareName parameter).toList.dropWhile (· == '_') ≠ [] := by simp [left]
        refine .inr ⟨by simpa [List.dropWhile_eq_nil_iff] using something, ?_⟩
        apply reportedAs_of_eq (.inr rfl)
        rw [← toCamelCase_dropWhile wordlike something]
        simp only [parameterIssues, if_pos marked, left]
        rfl
  · obtain ⟨c, found, -⟩ := letterFirst_of_isIdentifierName named marked
    have mixed := wordlike.find?_eq_none_iff.not.mp (by simp [found])
    refine .inr ⟨mixed, ?_⟩
    apply reportedAs_of_eq (.inl rfl)
    simp only [parameterIssues, if_neg marked]
    rw [if_neg (exempt_iff.not.mpr (not_not.mpr misspelled))]

/-- The rules on parameters report every parameter that is reported for being shown, and propose the
same name, unless its name consists of underscores. -/
theorem shown_parameters_misnamed (keywords : KeywordTable) (method : Node)
    (identifiers : ∀ parameter ∈ method.label.parameters, isIdentifier parameter.text = true) :
    ∀ issue ∈ placeholderIssues keywords method, ∃ parameter ∈ method.label.parameters,
      ∃ description replacement,
        issue = rename .placeholderParameter parameter description replacement ∧
        Proposes issue parameter replacement ∧
        ((∀ c ∈ (bareName parameter).toList, c = '_') ∧ parameterIssues keywords parameter = [] ∨
          (¬∀ c ∈ (bareName parameter).toList, c = '_') ∧
            ReportedAs keywords parameter replacement) := by
  intro issue reported
  obtain ⟨index, parameter, found, raised⟩ := mem_placeholderIssues_iff.mp reported
  obtain ⟨⟨-, -, misspelled⟩, rfl⟩ := placeholderIssue?_eq_some.mp raised
  have declared := List.mem_of_getElem? found
  exact ⟨parameter, declared, _, _, rfl, proposes_rename _ _ _ _,
    parameterIssues_of_misspelled (identifiers parameter declared) misspelled⟩

namespace Sample

def welcoming : Node := printing "_User" "\"\x7b_user\x7d\""

def discarding : Node := printing "__" "\"\x7b__\x7d\""

end Sample

open Sample in
theorem shown_parameters_misnamed_underscored :
    (placeholderIssues {} welcoming).map (·.suggestion) = ["Rename to 'user'"] ∧
      ∀ issue ∈ placeholderIssues {} welcoming, ∃ description replacement,
        issue = rename .placeholderParameter ⟨"_User", {}⟩ description replacement ∧
        Proposes issue ⟨"_User", {}⟩ replacement ∧
        ReportedAs {} ⟨"_User", {}⟩ replacement := by
  refine ⟨by decide +kernel, ?_⟩
  intro issue reported
  obtain ⟨parameter, declared, description, replacement, renames, proposes, verdict⟩ :=
    shown_parameters_misnamed {} welcoming (by decide) issue reported
  cases List.mem_singleton.mp declared
  refine ⟨description, replacement, renames, proposes, ?_⟩
  rcases verdict with ⟨underscores, -⟩ | ⟨-, alsoReported⟩
  · exact absurd (underscores 'U' (by decide)) (by decide)
  · exact alsoReported

open Sample in
/-- Two underscores mark a parameter that nobody uses. A string that shows them is enough for a
report, and what it proposes is the name itself. -/
theorem discarded_parameter_reported :
    (∀ parameter ∈ discarding.label.parameters, isIdentifier parameter.text = true) ∧
      (placeholderIssues {} discarding).map (·.suggestion) = ["Rename to '__'"] ∧
      ∀ parameter ∈ discarding.label.parameters, parameterIssues {} parameter = [] := by
  decide +kernel

end SharpLint.Check.Naming
