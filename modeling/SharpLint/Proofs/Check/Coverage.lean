import SharpLint.Proofs.Check.Reports
import SharpLint.Proofs.Text.Searching

/-!
# Documentation coverage

The declarations that have to be documented (`Exposed`) are looked at one by one, and the score
comes last. A declaration that is not `Documented` is a failure, one that is gets a note if its
comment is `Unfinished`, and no issue otherwise (`nodeIssue?_of_not_documented` and the lemmas after
it). So the score agrees with the failures before it (`coverage_agrees_with_findings`).
-/

namespace SharpLint.Check.Documentation

/-- Interfaces, and public classes, methods and properties. -/
inductive Exposed (node : Node) : Prop where
  | interface (kind : node.kind = .interfaceDecl)
  | visible (kind : node.kind = .classDecl ∨ node.kind = .methodDecl ∨ node.kind = .propertyDecl)
      (isPublic : node.isPublic = true)

def Tags (comment name : String) : Prop :=
  s!"<param name=\"{name}\"".toList <:+: comment.toList

instance (comment name : String) : Decidable (Tags comment name) :=
  inferInstanceAs (Decidable (_ <:+: _))

def untagged (parameters : List Token) (comment : String) : List String :=
  (parameters.map (·.text)).filter fun name => ¬Tags comment name

/-- The declaration has a doc comment which, for a method, has a tag for every parameter. -/
def Documented (node : Node) : Prop :=
  ∃ comment, node.label.docComment = some comment ∧
    (node.kind = .methodDecl → ∀ parameter ∈ node.label.parameters,
      Tags comment.text parameter.text)

def Unfinished (node : Node) : Prop :=
  ∃ comment, node.label.docComment = some comment ∧
    (Text.StandsAlone "TODO" comment.text ∨ Text.StandsAlone "FIXME" comment.text)

variable {node root : Node} {comment : Token}

/-! ## Declarations -/

theorem isSurface_iff : isSurface node = true ↔ Exposed node := by
  unfold isSurface
  constructor
  · intro surface
    split at surface
    case h_1 kind => exact .interface kind
    case h_2 kind => exact .visible (.inl kind) surface
    case h_3 kind => exact .visible (.inr (.inl kind)) surface
    case h_4 kind => exact .visible (.inr (.inr kind)) surface
    case h_5 => cases surface
  · rintro (kind | ⟨kind | kind | kind, isPublic⟩) <;> simp [*]

instance (node : Node) : Decidable (Exposed node) := decidable_of_iff _ isSurface_iff

theorem not_contains_parameterTag (comment name : String) :
    (!Text.contains comment (parameterTag name)) = decide (¬Tags comment name) := by
  rw [Bool.eq_iff_iff, Bool.not_eq_true', ← Bool.not_eq_true, Text.contains_iff, decide_eq_true_iff]
  rfl

theorem undocumentedParameters_of_isMethod (isMethod : node.kind = .methodDecl)
    (comment : String) :
    undocumentedParameters node comment = untagged node.label.parameters comment := by
  simp only [undocumentedParameters, Node.isMethod, isMethod, untagged, not_contains_parameterTag]
  rfl

theorem undocumentedParameters_of_not_isMethod (other : node.kind ≠ .methodDecl)
    (comment : String) : undocumentedParameters node comment = [] := by
  simp [undocumentedParameters, Node.isMethod, other]

theorem documented_iff (present : node.label.docComment = some comment) :
    Documented node ↔ undocumentedParameters node comment.text = [] := by
  by_cases isMethod : node.kind = .methodDecl
  · simp [Documented, present, isMethod, undocumentedParameters_of_isMethod isMethod, untagged]
  · simp [Documented, present, isMethod, undocumentedParameters_of_not_isMethod isMethod]

theorem isDocumented_iff : isDocumented node = true ↔ Documented node := by
  unfold isDocumented
  cases present : node.label.docComment with
  | none => simp [Documented, present]
  | some comment => rw [documented_iff present, List.isEmpty_iff]

instance (node : Node) : Decidable (Documented node) := decidable_of_iff _ isDocumented_iff

theorem hasReminder_iff (present : node.label.docComment = some comment) :
    hasReminder comment.text = true ↔ Unfinished node := by
  simp [hasReminder, Text.hasWholeWord_iff, Unfinished, present]

instance (node : Node) : Decidable (Unfinished node) :=
  match present : node.label.docComment with
  | none => .isFalse (by simp [Unfinished, present])
  | some _ => decidable_of_iff _ (hasReminder_iff present)

/-! ## The findings on one declaration -/

/-- The issue is a failure at the declaration's anchor. It says that the comment is missing, or
which parameters have no tag. -/
structure Reproves (node : Node) (issue : Issue) : Prop where
  failing : issue.passed = false
  line : issue.line = node.anchor.startLine
  column : issue.column = node.anchor.startColumn
  snippet : issue.snippet = node.name
  missing : node.label.docComment = none → issue.rule = .missingDocumentation ∧
    issue.description = s!"{(described node.kind).1} '{node.name}' has no documentation comment."
  incomplete : ∀ comment, node.label.docComment = some comment →
    issue.rule = .incompleteDocumentation ∧ issue.description =
      s!"{(described node.kind).1} '{node.name}' documentation is incomplete." ++
        String.join ((untagged node.label.parameters comment.text).map fun name =>
          s!" Parameter '{name}' undocumented.") ++
        if Unfinished node then " Contains TODO/FIXME." else ""

structure Remarks (node : Node) (issue : Issue) : Prop where
  rule : issue.rule = .documentationNote
  passing : issue.passed = true
  line : issue.line = node.anchor.startLine
  column : issue.column = node.anchor.startColumn
  snippet : issue.snippet = node.name
  description : issue.description =
    s!"{(described node.kind).1} '{node.name}' documentation contains TODO/FIXME"

theorem nodeIssue?_of_not_documented (failed : ¬Documented node) :
    ∃ issue, nodeIssue? node = some issue ∧ Reproves node issue := by
  unfold nodeIssue?
  cases present : node.label.docComment with
  | none => exact ⟨_, rfl, rfl, rfl, rfl, rfl, fun _ => ⟨rfl, rfl⟩, by simp [present]⟩
  | some comment =>
      rw [documented_iff present] at failed
      have isMethod : node.kind = .methodDecl := by
        by_contra other
        exact failed (undocumentedParameters_of_not_isMethod other _)
      dsimp only
      rw [undocumentedParameters_of_isMethod isMethod] at failed ⊢
      split
      · contradiction
      · refine ⟨_, rfl, rfl, rfl, rfl, rfl, by simp [present], ?_⟩
        intro _ same
        cases present.symm.trans same
        refine ⟨rfl, ?_⟩
        simp only [← hasReminder_iff present]
        rfl

theorem nodeIssue?_of_unfinished (documented : Documented node) (unfinished : Unfinished node) :
    ∃ issue, nodeIssue? node = some issue ∧ Remarks node issue := by
  obtain ⟨comment, present, -⟩ := id documented
  have complete := (documented_iff present).mp documented
  have reminder := (hasReminder_iff present).mpr unfinished
  unfold nodeIssue?
  simp only [present, complete, reminder]
  exact ⟨_, rfl, rfl, rfl, rfl, rfl, rfl, rfl⟩

theorem nodeIssue?_of_finished (documented : Documented node) (finished : ¬Unfinished node) :
    nodeIssue? node = none := by
  obtain ⟨comment, present, -⟩ := id documented
  have complete := (documented_iff present).mp documented
  have noReminder := (hasReminder_iff present).not.mpr finished
  simp [nodeIssue?, present, complete, noReminder]

/-! ## The findings on all declarations -/

structure Scores (documented total : Nat) (issue : Issue) : Prop where
  rule : issue.rule = .documentationScore
  description : issue.description = s!"Documented items: {documented}/{total}"
  passed_iff : issue.passed = true ↔ documented = total

theorem score_scores (documented total : Nat) :
    Scores documented total (score documented total) := by
  unfold score
  by_cases complete : documented = total
  · simp only [complete, if_true]
    exact ⟨rfl, rfl, by simp⟩
  · simp only [if_neg complete]
    exact ⟨rfl, rfl, by simp [Issue.failing, complete]⟩

theorem failures_reprove (surface : List Node) :
    List.Forall₂ Reproves (surface.filter (¬Documented ·))
      ((surface.filterMap nodeIssue?).filter (!·.passed)) := by
  rw [List.filter_filterMap]
  apply forall₂_filterMap
  · intro node _ failed
    obtain ⟨issue, shown, reproves⟩ := nodeIssue?_of_not_documented (of_decide_eq_true failed)
    exact ⟨issue, by simp [shown, reproves.failing], reproves⟩
  · intro node _ complete
    have documented : Documented node := by simpa using complete
    by_cases unfinished : Unfinished node
    · obtain ⟨issue, shown, remarks⟩ := nodeIssue?_of_unfinished documented unfinished
      simp [shown, remarks.passing]
    · simp [nodeIssue?_of_finished documented unfinished]

theorem notes_remark (surface : List Node) :
    List.Forall₂ Remarks (surface.filter fun node => Documented node ∧ Unfinished node)
      ((surface.filterMap nodeIssue?).filter (·.passed)) := by
  rw [List.filter_filterMap]
  apply forall₂_filterMap
  · intro node _ noted
    obtain ⟨documented, unfinished⟩ := of_decide_eq_true noted
    obtain ⟨issue, shown, remarks⟩ := nodeIssue?_of_unfinished documented unfinished
    exact ⟨issue, by simp [shown, remarks.passing], remarks⟩
  · intro node _ silent
    by_cases documented : Documented node
    · have finished : ¬Unfinished node := fun unfinished =>
        of_decide_eq_false silent ⟨documented, unfinished⟩
      simp [nodeIssue?_of_finished documented finished]
    · obtain ⟨issue, shown, reproves⟩ := nodeIssue?_of_not_documented documented
      simp [shown, reproves.failing]

/-- Of the findings before the score, the failures are those on the declarations that are not
documented, and the others are notes on documented ones whose comment is unfinished. The score says
how many of the declarations are documented, and it passes exactly if nothing else fails. -/
theorem coverage_agrees_with_findings (root : Node) :
    let surface := root.descendants.filter fun node => Exposed node
    let total := surface.length
    let documented := surface.countP fun node => Documented node
    ∃ findings last, issues root = findings ++ [last] ∧
      List.Forall₂ Reproves (surface.filter (¬Documented ·)) (findings.filter (!·.passed)) ∧
      List.Forall₂ Remarks (surface.filter fun node => Documented node ∧ Unfinished node)
        (findings.filter (·.passed)) ∧
      documented + findings.countP (!·.passed) = total ∧
      Scores documented total last ∧
      ((∀ issue ∈ issues root, issue.passed = true) ↔ documented = total) := by
  intro surface total documented
  have listed : root.descendants.filter isSurface = surface := by
    simp only [surface, ← isSurface_iff, Bool.decide_eq_true]
  have counted : surface.countP isDocumented = documented := by
    simp only [documented, ← isDocumented_iff, Bool.decide_eq_true]
  have failures := failures_reprove surface
  have scores := score_scores documented total
  have balanced : documented + (surface.filterMap nodeIssue?).countP (!·.passed) = total := by
    rw [List.countP_eq_length_filter, ← failures.length_eq, ← List.countP_eq_length_filter]
    have split := List.length_eq_countP_add_countP (l := surface) fun node => Documented node
    simpa using split.symm
  have reported : issues root = surface.filterMap nodeIssue? ++ [score documented total] := by
    rw [issues, listed, counted]
  refine ⟨_, _, reported, failures, notes_remark surface, balanced, scores, ?_⟩
  rw [reported, List.forall_mem_append, List.forall_mem_singleton, scores.passed_iff]
  refine and_iff_right_of_imp fun complete => ?_
  have none : (surface.filterMap nodeIssue?).countP (!·.passed) = 0 := by omega
  simpa using none

end SharpLint.Check.Documentation
