import Mathlib.Data.List.Forall2
import SharpLint.Linter

/-!
# What the checks report

Every issue of a check goes back to a declaration, a block or a statement below the root, and was
made of it in one of a few ways. The `mem_` lemmas say which; that issues explain themselves
(`Issue.Complete`) is then shown once for each way (`builtin_complete`, and for the issues of the
linter itself `parseFailure_complete` and the lemmas after it).
-/

namespace SharpLint

/-- The issue has a summary, and says what to do if it fails. -/
structure Issue.Complete (issue : Issue) : Prop where
  explained : issue.detail.isSome = true
  advised : issue.passed = false → issue.suggestion ≠ ""

namespace Issue

theorem Complete.restamp {issue : Issue} (complete : issue.Complete) (name : String) :
    Complete { issue with category := name } :=
  ⟨complete.explained, complete.advised⟩

theorem note_complete (rule : Rule) (description snippet : String)
    (facts : List (String × String)) (span : Span) :
    (note rule description snippet facts span).Complete :=
  ⟨rfl, fun failed => by cases failed⟩

theorem Complete.failing {issue : Issue} (complete : issue.Complete) {suggestion : String}
    (advice : suggestion ≠ "") : (issue.failing suggestion).Complete :=
  ⟨complete.explained, fun _ => advice⟩

theorem violation_complete (rule : Rule) (description snippet : String)
    (facts : List (String × String)) (span : Span) {suggestion : String}
    (advice : suggestion ≠ "") :
    (violation rule description suggestion snippet facts span).Complete :=
  (note_complete rule description snippet facts span).failing advice

end Issue

theorem forall₂_filterMap {α β : Type*} {relation : α → β → Prop} {kept : α → Bool}
    {reported : α → Option β} {places : List α}
    (some_of_kept : ∀ place ∈ places, kept place = true →
      ∃ issue, reported place = some issue ∧ relation place issue)
    (none_of_not : ∀ place ∈ places, kept place = false → reported place = none) :
    List.Forall₂ relation (places.filter kept) (places.filterMap reported) := by
  induction places with
  | nil => exact .nil
  | cons place places ih =>
      rw [List.forall_mem_cons] at some_of_kept none_of_not
      have others := ih some_of_kept.2 none_of_not.2
      cases verdict : kept place with
      | true =>
          obtain ⟨issue, shown, related⟩ := some_of_kept.1 verdict
          rw [List.filter_cons_of_pos verdict, List.filterMap_cons_some shown]
          exact .cons related others
      | false =>
          rw [List.filter_cons_of_neg (Bool.not_eq_true _ ▸ verdict),
            List.filterMap_cons_none (none_of_not.1 verdict)]
          exact others

theorem forall₂_flatMap {α β γ : Type*} {relation : β → γ → Prop} {expected : α → List β}
    {reported : α → List γ} {places : List α}
    (each : ∀ place ∈ places, List.Forall₂ relation (expected place) (reported place)) :
    List.Forall₂ relation (places.flatMap expected) (places.flatMap reported) := by
  rw [List.flatMap_def, List.flatMap_def]
  apply List.rel_flatten
  rw [List.forall₂_map_left_iff, List.forall₂_map_right_iff, List.forall₂_same]
  exact each

def Node.declaredTokens (node : Node) : List Token :=
  node.label.identifier.toList ++ node.label.parameters ++ node.label.declarators

namespace Check

/-! ## Names -/

namespace Naming

variable {keywords : Names.KeywordTable} {node root : Node} {issue : Issue}

def rules : List Rule :=
  [.classPascalCase, .interfacePascalCase, .methodPascalCase, .asyncSuffix, .parameterCamelCase,
   .parameterUnderscore, .fieldPrefix, .privateFieldUnderscore, .fieldCamelCase,
   .placeholderParameter]

def Renames (token : Token) (issue : Issue) : Prop :=
  ∃ rule ∈ rules, ∃ description replacement, issue = rename rule token description replacement

theorem renames_complete {token : Token} (renames : Renames token issue) : issue.Complete := by
  obtain ⟨rule, -, description, replacement, rfl⟩ := renames
  exact Issue.violation_complete _ _ _ _ _ (by simp [toString])

theorem mem_typeIssues (reported : issue ∈ typeIssues keywords node) :
    ∃ token ∈ node.label.identifier, Renames token issue := by
  unfold typeIssues at reported
  split at reported
  · cases reported
  · rename_i token declared
    dsimp only at reported
    split at reported
    · cases reported
    · refine ⟨token, declared, ?_⟩
      split at reported
      · exact ⟨_, by decide, _, _, List.mem_singleton.mp reported⟩
      · exact ⟨_, by decide, _, _, List.mem_singleton.mp reported⟩

theorem mem_methodNameIssues (reported : issue ∈ methodNameIssues keywords node) :
    ∃ token ∈ node.label.identifier, Renames token issue := by
  unfold methodNameIssues at reported
  split at reported
  · cases reported
  · rename_i token declared
    refine ⟨token, declared, ?_⟩
    rcases List.mem_append.mp reported with wrongCase | wrongEnd
    · split at wrongCase
      · cases wrongCase
      · exact ⟨_, by decide, _, _, List.mem_singleton.mp wrongCase⟩
    · split at wrongEnd
      · exact ⟨_, by decide, _, _, List.mem_singleton.mp wrongEnd⟩
      · cases wrongEnd

theorem mem_parameterIssues {parameter : Token}
    (reported : issue ∈ parameterIssues keywords parameter) : Renames parameter issue := by
  unfold parameterIssues at reported
  dsimp only at reported
  split at reported
  · split at reported
    · cases reported
    · exact ⟨_, by decide, _, _, List.mem_singleton.mp reported⟩
  · split at reported
    · cases reported
    · exact ⟨_, by decide, _, _, List.mem_singleton.mp reported⟩

theorem mem_placeholderIssues (reported : issue ∈ placeholderIssues keywords node) :
    ∃ parameter ∈ node.label.parameters, Renames parameter issue := by
  unfold placeholderIssues at reported
  split at reported
  · cases reported
  · obtain ⟨⟨parameter, index⟩, numbered, shown⟩ := List.mem_filterMap.mp reported
    dsimp only at shown
    split at shown
    · cases shown
    · refine ⟨parameter, List.fst_mem_of_mem_zipIdx numbered, ?_⟩
      exact ⟨_, by decide, _, _, (Option.some.inj shown).symm⟩

theorem mem_fieldNameIssues {isPrivate : Bool} {token : Token}
    (reported : issue ∈ fieldNameIssues keywords isPrivate token) : Renames token issue := by
  simp only [fieldNameIssues, List.mem_append] at reported
  rcases reported with (marked | bare) | afterMark
  · split at marked
    · split at marked
      · exact ⟨_, by decide, _, _, List.mem_singleton.mp marked⟩
      · cases marked
    · cases marked
  · split at bare
    · exact ⟨_, by decide, _, _, List.mem_singleton.mp bare⟩
    · cases bare
  · split at afterMark
    · split at afterMark
      · cases afterMark
      · exact ⟨_, by decide, _, _, List.mem_singleton.mp afterMark⟩
    · cases afterMark

theorem mem_nodeIssues (reported : issue ∈ nodeIssues keywords node) :
    ∃ token ∈ node.declaredTokens, Renames token issue := by
  unfold nodeIssues at reported
  simp only [Node.declaredTokens, List.mem_append, Option.mem_toList]
  split at reported
  · obtain ⟨token, declared, renames⟩ := mem_typeIssues reported
    exact ⟨token, .inl (.inl declared), renames⟩
  · obtain ⟨token, declared, renames⟩ := mem_typeIssues reported
    exact ⟨token, .inl (.inl declared), renames⟩
  · simp only [methodIssues, List.mem_append, List.mem_flatMap] at reported
    rcases reported with (method | ⟨parameter, declared, reported⟩) | placeholder
    · obtain ⟨token, declared, renames⟩ := mem_methodNameIssues method
      exact ⟨token, .inl (.inl declared), renames⟩
    · exact ⟨parameter, .inl (.inr declared), mem_parameterIssues reported⟩
    · obtain ⟨parameter, declared, renames⟩ := mem_placeholderIssues placeholder
      exact ⟨parameter, .inl (.inr declared), renames⟩
  · obtain ⟨token, declared, reported⟩ := List.mem_flatMap.mp reported
    exact ⟨token, .inr declared, mem_fieldNameIssues reported⟩
  · cases reported

theorem mem_issues (reported : issue ∈ issues keywords root) :
    ∃ node ∈ root.descendants, ∃ token ∈ Node.declaredTokens node, Renames token issue := by
  obtain ⟨node, below, reported⟩ := List.mem_flatMap.mp reported
  exact ⟨node, below, mem_nodeIssues reported⟩

theorem issues_complete (reported : issue ∈ issues keywords root) : issue.Complete := by
  obtain ⟨_, _, _, _, renames⟩ := mem_issues reported
  exact renames_complete renames

end Naming

/-! ## Methods -/

namespace Complexity

variable {limits : ComplexityLimits} {root : Node} {issue : Issue}

theorem mem_issues (reported : issue ∈ issues limits root) :
    ∃ method ∈ root.methods, ∃ body ∈ Node.body? method,
      issue = methodIssue limits method body := by
  obtain ⟨method, below, reported⟩ := List.mem_filterMap.mp reported
  obtain ⟨body, found, rfl⟩ := Option.map_eq_some_iff.mp reported
  exact ⟨method, below, body, found, rfl⟩

theorem methodIssue_complete (method body : Node) : (methodIssue limits method body).Complete := by
  unfold methodIssue
  dsimp only
  split
  · exact (Issue.note_complete _ _ _ _ _).failing (by simp [toString])
  · exact Issue.note_complete _ _ _ _ _

theorem issues_complete (reported : issue ∈ issues limits root) : issue.Complete := by
  obtain ⟨method, -, body, -, rfl⟩ := mem_issues reported
  exact methodIssue_complete method body

end Complexity

namespace Size

variable {limits : SizeLimits} {method root : Node} {issue : Issue}

theorem methodIssues_complete (reported : issue ∈ methodIssues limits method) :
    issue.Complete := by
  simp only [methodIssues, List.mem_append, List.mem_ite_nil_right, List.mem_singleton] at reported
  rcases reported with ⟨-, rfl⟩ | ⟨-, rfl⟩
  · exact Issue.violation_complete _ _ _ _ _ (by decide)
  · exact Issue.violation_complete _ _ _ _ _ (by decide)

theorem issues_complete (reported : issue ∈ issues limits root) : issue.Complete := by
  obtain ⟨method, -, reported⟩ := List.mem_flatMap.mp reported
  exact methodIssues_complete reported

end Size

/-! ## Documentation -/

namespace Documentation

variable {node root : Node} {issue : Issue}

theorem nodeIssue?_complete (reported : nodeIssue? node = some issue) : issue.Complete := by
  unfold nodeIssue? at reported
  dsimp only at reported
  split at reported
  · cases reported
    exact Issue.violation_complete _ _ _ _ _ (by decide)
  · split at reported
    · split at reported
      · cases reported
        exact Issue.note_complete _ _ _ _ _
      · cases reported
    · cases reported
      exact Issue.violation_complete _ _ _ _ _ (by simp)

theorem score_complete (documented total : Nat) : (score documented total).Complete := by
  unfold score
  dsimp only
  split
  · exact ⟨rfl, fun failed => by cases failed⟩
  · exact ⟨rfl, fun _ => by simp [Issue.failing]⟩

theorem mem_issues (reported : issue ∈ issues root) :
    (∃ node ∈ root.descendants, isSurface node = true ∧ nodeIssue? node = some issue) ∨
      ∃ documented total, issue = score documented total := by
  simp only [issues, List.mem_append, List.mem_filterMap, List.mem_filter,
    List.mem_singleton] at reported
  rcases reported with ⟨node, ⟨below, surface⟩, reported⟩ | last
  · exact .inl ⟨node, below, surface, reported⟩
  · exact .inr ⟨_, _, last⟩

theorem issues_complete (reported : issue ∈ issues root) : issue.Complete := by
  rcases mem_issues reported with ⟨node, -, -, reported⟩ | ⟨documented, total, rfl⟩
  · exact nodeIssue?_complete reported
  · exact score_complete documented total

end Documentation

/-! ## Blocks -/

namespace Duplication

variable {limits : DuplicationLimits} {root : Node} {issue : Issue}

theorem mem_issues (reported : issue ∈ issues limits root) :
    ∃ members ∈ clusters root limits.minStatements, ∃ block ∈ members, ∃ snippet,
      issue = memberIssue members.length snippet block.1 := by
  obtain ⟨members, cluster, reported⟩ := List.mem_flatMap.mp reported
  obtain ⟨block, member, rfl⟩ := List.mem_map.mp reported
  exact ⟨members, cluster, block, member, _, rfl⟩

theorem issues_complete (reported : issue ∈ issues limits root) : issue.Complete := by
  obtain ⟨members, -, block, -, snippet, rfl⟩ := mem_issues reported
  exact Issue.violation_complete _ _ _ _ _ (by decide)

end Duplication

/-! ## Uses -/

namespace Unused

variable {method field root : Node} {issue : Issue}

def rules : List Rule :=
  [.unusedLocal, .unusedParameter, .unusedPrivateField, .unusedPrivateMethod]

/-- The issue says that nobody uses the token, and what to do about it. -/
def Condemns (token : Token) (issue : Issue) : Prop :=
  ∃ rule ∈ rules, ∃ description suggestion,
    suggestion ≠ "" ∧ issue = dead rule token description suggestion

theorem condemns_complete {token : Token} (condemns : Condemns token issue) : issue.Complete := by
  obtain ⟨rule, -, description, suggestion, advice, rfl⟩ := condemns
  exact Issue.violation_complete _ _ _ _ _ advice

theorem mem_localIssues (reported : issue ∈ localIssues root) :
    ∃ node scope, (node, scope) ∈ withScopesAll root root.children ∧
      ∃ token ∈ node.label.declarators, Condemns token issue := by
  obtain ⟨⟨node, scope⟩, visited, reported⟩ := List.mem_flatMap.mp reported
  dsimp only at reported
  split at reported
  · obtain ⟨token, unused, rfl⟩ := List.mem_map.mp reported
    refine ⟨node, scope, visited, token, (List.mem_filter.mp unused).1, ?_⟩
    exact ⟨_, by decide, _, _, by decide, rfl⟩
  · cases reported

theorem mem_parameterIssues (reported : issue ∈ parameterIssues method) :
    ∃ token ∈ method.label.parameters, Condemns token issue := by
  unfold parameterIssues at reported
  split at reported
  · cases reported
  · obtain ⟨token, unused, rfl⟩ := List.mem_map.mp reported
    exact ⟨token, (List.mem_filter.mp unused).1, _, by decide, _, _, by decide, rfl⟩

theorem mem_fieldIssues (reported : issue ∈ fieldIssues root field) :
    ∃ token ∈ field.label.declarators, Condemns token issue := by
  obtain ⟨token, unused, rfl⟩ := List.mem_map.mp reported
  exact ⟨token, (List.mem_filter.mp unused).1, _, by decide, _, _, by decide, rfl⟩

theorem mem_methodIssues (reported : issue ∈ methodIssues root method) :
    ∃ token ∈ method.label.identifier, Condemns token issue := by
  unfold methodIssues at reported
  split at reported
  · cases reported
  · rename_i token declared
    split at reported
    · cases reported
    · refine ⟨token, declared, ?_⟩
      exact ⟨_, by decide, _, _, by decide, List.mem_singleton.mp reported⟩

theorem issues_complete (reported : issue ∈ issues root) : issue.Complete := by
  simp only [issues, List.mem_append, List.mem_flatMap] at reported
  rcases reported with ((inBody | ⟨method, -, inBody⟩) | ⟨field, -, hidden⟩) | ⟨method, -, hidden⟩
  · obtain ⟨_, _, _, _, _, condemns⟩ := mem_localIssues inBody
    exact condemns_complete condemns
  · obtain ⟨_, _, condemns⟩ := mem_parameterIssues inBody
    exact condemns_complete condemns
  · obtain ⟨_, _, condemns⟩ := mem_fieldIssues hidden
    exact condemns_complete condemns
  · obtain ⟨_, _, condemns⟩ := mem_methodIssues hidden
    exact condemns_complete condemns

end Unused

/-! ## Exceptions -/

namespace Exceptions

variable {clause method root : Node} {issue : Issue}

theorem clauseIssues_complete (reported : issue ∈ clauseIssues clause) : issue.Complete := by
  simp only [clauseIssues, List.mem_append, List.mem_ite_nil_right, List.mem_singleton] at reported
  rcases reported with ⟨-, rfl⟩ | ⟨-, rfl⟩
  · exact Issue.violation_complete _ _ _ _ _ (by decide)
  · exact Issue.violation_complete _ _ _ _ _ (by decide)

theorem distinctBy_sublist {α : Type} (key : α → Nat) (seen : List Nat) (members : List α) :
    List.Sublist (distinctBy key seen members) members := by
  fun_induction distinctBy key seen members with
  | case1 => exact .slnil
  | case2 seen first members _ ih => exact ih.cons first
  | case3 seen first members _ ih => exact ih.cons_cons first

theorem mem_rethrowIssues {clauses : List Node} (reported : issue ∈ rethrowIssues clauses) :
    ∃ clause ∈ clauses, ∃ rethrow ∈ rethrows clause, issue = rethrowIssue rethrow.1 rethrow.2 := by
  obtain ⟨rethrow, kept, rfl⟩ := List.mem_map.mp reported
  obtain ⟨clause, listed, inside⟩ :=
    List.mem_flatMap.mp ((distinctBy_sublist ..).subset kept)
  exact ⟨clause, listed, rethrow, inside, rfl⟩

theorem mem_asyncIssues (reported : issue ∈ asyncIssues method) :
    ∃ body ∈ method.body?, ∃ node ∈ ownNodes body, ∃ call,
      issue = blockingIssue method call node := by
  unfold asyncIssues at reported
  split at reported
  · cases reported
  · rename_i body found
    obtain ⟨node, visited, reported⟩ := List.mem_filterMap.mp reported
    obtain ⟨call, -, rfl⟩ := Option.map_eq_some_iff.mp reported
    exact ⟨body, found, node, visited, call, rfl⟩

theorem rule_of_mem_clauseIssues (reported : issue ∈ clauseIssues clause) :
    issue.rule = .genericCatch ∨ issue.rule = .emptyCatch := by
  simp only [clauseIssues, List.mem_append, List.mem_ite_nil_right, List.mem_singleton] at reported
  rcases reported with ⟨-, rfl⟩ | ⟨-, rfl⟩
  · exact .inl rfl
  · exact .inr rfl

theorem rule_of_mem_rethrowIssues {clauses : List Node}
    (reported : issue ∈ rethrowIssues clauses) : issue.rule = .rethrowByName := by
  obtain ⟨_, _, _, _, rfl⟩ := mem_rethrowIssues reported
  rfl

theorem rule_of_mem_asyncIssues (reported : issue ∈ asyncIssues method) :
    issue.rule = .blockingAsyncCall := by
  obtain ⟨_, _, _, _, _, rfl⟩ := mem_asyncIssues reported
  rfl

theorem issues_complete (reported : issue ∈ issues root) : issue.Complete := by
  simp only [issues, List.mem_append, List.mem_flatMap] at reported
  rcases reported with (⟨clause, -, caught⟩ | again) | ⟨method, -, blocking⟩
  · exact clauseIssues_complete caught
  · obtain ⟨_, _, _, _, rfl⟩ := mem_rethrowIssues again
    exact Issue.violation_complete _ _ _ _ _ (by decide)
  · obtain ⟨_, _, _, _, _, rfl⟩ := mem_asyncIssues blocking
    exact Issue.violation_complete _ _ _ _ _ (by decide)

end Exceptions

end Check

/-! ## All built-in analyzers, and the linter itself -/

theorem Analyzer.builtin_complete {config : Config} {analyzer : Analyzer}
    (member : analyzer ∈ builtin config) {root : Node} {issue : Issue}
    (reported : issue ∈ (analyzer.inspect root).issues) : issue.Complete := by
  simp only [builtin, List.mem_cons, List.not_mem_nil, or_false] at member
  rcases member with rfl | rfl | rfl | rfl | rfl | rfl | rfl
  · exact Check.Naming.issues_complete reported
  · exact Check.Complexity.issues_complete reported
  · exact Check.Documentation.issues_complete reported
  · exact Check.Duplication.issues_complete reported
  · exact Check.Unused.issues_complete reported
  · exact Check.Size.issues_complete reported
  · exact Check.Exceptions.issues_complete reported

namespace Linter

theorem parseFailure_complete (error : ParseError) : (parseFailure error).Complete :=
  ⟨rfl, fun _ => by simp [parseFailure]⟩

theorem analyzerFault_complete (name message : String) : (analyzerFault name message).Complete :=
  ⟨rfl, fun _ => by simp [analyzerFault]⟩

theorem cancellation_complete (skipped : List String) : (cancellation skipped).Complete :=
  ⟨rfl, fun _ => by simp [cancellation]⟩

end Linter

end SharpLint
