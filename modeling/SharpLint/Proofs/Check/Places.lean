import SharpLint.Proofs.Check.Clusters
import SharpLint.Proofs.Check.DeadDeclarations
import SharpLint.Proofs.Source.Positions
import SharpLint.Proofs.Syntax.Origins

/-!
# Where the findings point

The findings of the built-in analyzers point at the source. `Issue.Refers` lists the ways in which
an issue may refer to a syntax tree, and `builtin_refers` goes through the checks. What a reference
means for the source is settled once for each way (`Issue.StandsAt.placed`, `Issue.Names.quotes`).
-/

namespace SharpLint

/-- The nodes of the tree lie inside the source. -/
def Concrete.Fits (source : Source) (tree : Concrete) : Prop :=
  ∀ node : Concrete, node.Within tree →
    node.label.start ≤ node.label.stop ∧ node.label.stop ≤ source.bytes.length

instance (source : Source) (tree : Concrete) : Decidable (tree.Fits source) :=
  decidable_of_iff (∀ node ∈ tree.preorder,
      node.label.start ≤ node.label.stop ∧ node.label.stop ≤ source.bytes.length)
    (forall_congr' fun _ => imp_congr_left Tree.mem_preorder)

def Linter.builtinFindings (config : Config) (root : Node) (fileName : String) : Findings :=
  merge fileName (run root false (Analyzer.builtin config)).1

namespace Issue

/-- The issue has a place in the source, and a node of the tree starts there. -/
structure Placed (source : Source) (tree : Concrete) (issue : Issue) : Prop where
  line : 1 ≤ issue.line
  column : 1 ≤ issue.column
  starts : ∃ node : Concrete, node.Within tree ∧
    source.positionByCounting node.label.start = ⟨issue.line, issue.column⟩

/-- The text that the issue shows stands in the source at its place. -/
def Quotes (source : Source) (issue : Issue) : Prop :=
  ∀ offset ≤ source.bytes.length, source.positionByCounting offset = ⟨issue.line, issue.column⟩ →
    utf8 issue.snippet <+: source.bytes.drop offset

def namingCategories : List String :=
  ["Naming", "Complexity", "Documentation", "UnusedCode", "Size"]

end Issue

structure Findings.PointAt (source : Source) (tree : Concrete) (findings : Findings) : Prop where
  placed : ∀ issue ∈ findings.issues, issue.rule ≠ .documentationScore → issue.Placed source tree
  quotes : ∀ issue ∈ findings.issues, issue.category ∈ Issue.namingCategories →
    issue.rule ≠ .documentationScore → issue.Quotes source
  unplaced : ∀ issue ∈ findings.issues,
    issue.line = 0 ∧ issue.column = 0 ↔ issue.rule = .documentationScore
  score : findings.issues.countP (·.rule = .documentationScore) = 1

namespace Issue

/-! ## References -/

/-- The issue stands at the start of the span. The score stands nowhere. -/
structure StandsAt (span : Span) (issue : Issue) : Prop where
  line : issue.line = span.startLine
  column : issue.column = span.startColumn
  rule : issue.rule ≠ .documentationScore

/-- The issue shows a name that the node declares, at that name; or nothing, at the node. -/
inductive Names (node : Node) (issue : Issue) : Prop where
  | token (token : Token) (declared : token ∈ node.declaredTokens)
      (stands : issue.StandsAt token.span) (shown : issue.snippet = token.text)
  | bare (stands : issue.StandsAt node.span) (shown : issue.snippet = "")

inductive Refers (root : Node) (category : String) (issue : Issue) : Prop where
  | declaration (node : Node) (below : node.Below root) (names : issue.Names node)
  | statement (node : Node) (below : node.Below root) (stands : issue.StandsAt node.span)
      (other : category ∉ namingCategories)
  | whole (documentation : category = "Documentation") (rule : issue.rule = .documentationScore)
      (line : issue.line = 0) (column : issue.column = 0)

theorem note_standsAt {rule : Rule} (noScore : rule ≠ .documentationScore)
    (description snippet : String) (facts : List (String × String)) (span : Span) :
    (note rule description snippet facts span).StandsAt span :=
  ⟨rfl, rfl, noScore⟩

theorem StandsAt.failing {issue : Issue} {span : Span} (stands : issue.StandsAt span)
    (suggestion : String) : (issue.failing suggestion).StandsAt span :=
  ⟨stands.line, stands.column, stands.rule⟩

theorem violation_standsAt {rule : Rule} (noScore : rule ≠ .documentationScore)
    (description suggestion snippet : String) (facts : List (String × String)) (span : Span) :
    (violation rule description suggestion snippet facts span).StandsAt span :=
  (note_standsAt noScore description snippet facts span).failing suggestion

theorem violation_names {rules : List Rule} {rule : Rule} {node : Node} {token : Token}
    (noScore : .documentationScore ∉ rules) (listed : rule ∈ rules)
    (declared : token ∈ node.declaredTokens) (description suggestion : String)
    (facts : List (String × String)) :
    (violation rule description suggestion token.text facts token.span).Names node := by
  have other : rule ≠ .documentationScore := by
    rintro rfl
    exact noScore listed
  exact .token token declared (violation_standsAt other _ _ _ _ _) rfl

theorem names_of_anchor {node : Node} {issue : Issue} (stands : issue.StandsAt node.anchor)
    (shown : issue.snippet = node.name) : issue.Names node := by
  unfold Node.anchor at stands
  unfold Node.name at shown
  cases identifier : node.label.identifier with
  | none =>
      rw [identifier] at stands shown
      exact .bare stands shown
  | some token =>
      rw [identifier] at stands shown
      refine .token token ?_ stands shown
      simp [Node.declaredTokens, identifier]

end Issue

namespace Check

open SharpLint.Tree (mem_descendants)

variable {root : Node} {issue : Issue}

/-! ## Checks of names -/

theorem below_of_mem_methods {method : Node} (member : method ∈ root.methods) :
    method.Below root :=
  mem_descendants.mp (List.mem_filter.mp member).1

theorem Naming.issues_refer {keywords : SharpLint.Names.KeywordTable}
    (reported : issue ∈ issues keywords root) : issue.Refers root "Naming" := by
  obtain ⟨node, below, token, declared, rule, listed, _, _, rfl⟩ := mem_issues reported
  refine .declaration node (mem_descendants.mp below) ?_
  exact Issue.violation_names (by decide) listed declared _ _ _

theorem Complexity.issues_refer {limits : ComplexityLimits}
    (reported : issue ∈ issues limits root) : issue.Refers root "Complexity" := by
  obtain ⟨method, below, body, -, rfl⟩ := mem_issues reported
  refine .declaration method (below_of_mem_methods below) ?_
  unfold methodIssue
  dsimp only
  split
  · exact Issue.names_of_anchor ((Issue.note_standsAt (by decide) _ _ _ _).failing _) rfl
  · exact Issue.names_of_anchor (Issue.note_standsAt (by decide) _ _ _ _) rfl

theorem Size.issues_refer {limits : SizeLimits} (reported : issue ∈ issues limits root) :
    issue.Refers root "Size" := by
  obtain ⟨method, below, reported⟩ := List.mem_flatMap.mp reported
  refine .declaration method (below_of_mem_methods below) ?_
  simp only [methodIssues, List.mem_append, List.mem_ite_nil_right, List.mem_singleton] at reported
  rcases reported with ⟨-, rfl⟩ | ⟨-, rfl⟩
  · exact Issue.names_of_anchor (Issue.violation_standsAt (by decide) _ _ _ _ _) rfl
  · exact Issue.names_of_anchor (Issue.violation_standsAt (by decide) _ _ _ _ _) rfl

namespace Documentation

theorem nodeIssue?_names {node : Node} (reported : nodeIssue? node = some issue) :
    issue.Names node := by
  unfold nodeIssue? at reported
  dsimp only at reported
  split at reported
  · cases reported
    exact Issue.names_of_anchor (Issue.violation_standsAt (by decide) _ _ _ _ _) rfl
  · split at reported
    · split at reported
      · cases reported
        exact Issue.names_of_anchor (Issue.note_standsAt (by decide) _ _ _ _) rfl
      · cases reported
    · cases reported
      exact Issue.names_of_anchor (Issue.violation_standsAt (by decide) _ _ _ _ _) rfl

theorem score_refers (documented total : Nat) :
    (score documented total).Refers root "Documentation" := by
  unfold score
  dsimp only
  split
  · exact .whole rfl rfl rfl rfl
  · exact .whole rfl rfl rfl rfl

theorem issues_refer (reported : issue ∈ issues root) : issue.Refers root "Documentation" := by
  rcases mem_issues reported with ⟨node, below, -, reported⟩ | ⟨documented, total, rfl⟩
  · exact .declaration node (mem_descendants.mp below) (nodeIssue?_names reported)
  · exact score_refers documented total

end Documentation

namespace Unused

theorem below_of_visited {node scope : Node}
    (visited : (node, scope) ∈ withScopesAll root root.children) : node.Below root := by
  rw [withScopesAll_children] at visited
  obtain ⟨lineage, listed, same⟩ := List.mem_map.mp visited
  rw [← mem_descendants, ← Tree.map_fst_lineages]
  exact List.mem_map.mpr ⟨lineage, listed, congrArg Prod.fst same⟩

theorem mem_issues (reported : issue ∈ issues root) :
    ∃ node : Node, node.Below root ∧ ∃ token ∈ node.declaredTokens, Condemns token issue := by
  have privateBelow {kind : Kind} {node : Node} (member : node ∈ privateOfKind root kind) :
      node.Below root := mem_descendants.mp (List.mem_filter.mp member).1
  simp only [issues, List.mem_append, List.mem_flatMap] at reported
  simp only [Node.declaredTokens, List.mem_append, Option.mem_toList]
  rcases reported with ((inBody | ⟨method, isMethod, inBody⟩) | ⟨field, isPrivate, hidden⟩) |
    ⟨method, isPrivate, hidden⟩
  · obtain ⟨node, scope, visited, token, declared, condemns⟩ := mem_localIssues inBody
    exact ⟨node, below_of_visited visited, token, .inr declared, condemns⟩
  · obtain ⟨token, declared, condemns⟩ := mem_parameterIssues inBody
    exact ⟨method, below_of_mem_methods isMethod, token, .inl (.inr declared), condemns⟩
  · obtain ⟨token, declared, condemns⟩ := mem_fieldIssues hidden
    exact ⟨field, privateBelow isPrivate, token, .inr declared, condemns⟩
  · obtain ⟨token, declared, condemns⟩ := mem_methodIssues hidden
    exact ⟨method, privateBelow isPrivate, token, .inl (.inl declared), condemns⟩

theorem issues_refer (reported : issue ∈ issues root) : issue.Refers root "UnusedCode" := by
  obtain ⟨node, below, token, declared, rule, listed, _, _, -, rfl⟩ := mem_issues reported
  exact .declaration node below (Issue.violation_names (by decide) listed declared _ _ _)

end Unused

/-! ## Checks of blocks and statements -/

theorem Duplication.issues_refer {limits : DuplicationLimits}
    (reported : issue ∈ issues limits root) : issue.Refers root "Duplication" := by
  obtain ⟨members, cluster, block, member, snippet, rfl⟩ := mem_issues reported
  obtain ⟨digest, rfl, -⟩ := mem_clusters.mp cluster
  have compared := (List.mem_filter.mp (List.mem_filter.mp member).1).1
  have below : block.1 ∈ root.descendants := List.fst_mem_of_mem_zipIdx compared
  exact .statement block.1 (mem_descendants.mp below)
    (Issue.violation_standsAt (by decide) _ _ _ _ _) (by decide)

namespace Exceptions

theorem below_of_mem_rethrows {clause : Node} {rethrow : String × Node}
    (member : rethrow ∈ rethrows clause) : rethrow.2.Below clause := by
  unfold rethrows at member
  split at member
  · rename_i caught block _ found
    obtain ⟨statement, inside, rfl⟩ := List.mem_map.mp member
    have below := mem_descendants.mp (List.mem_filter.mp inside).1
    exact .deeper below (List.mem_of_find?_eq_some found)
  · cases member

theorem below_of_mem_ownNodes {body node : Node} (member : node ∈ ownNodes body) :
    node.Below body := by
  rw [ownNodes, Tree.Walk.toList_eq] at member
  obtain ⟨child, isChild, reached⟩ := List.mem_flatMap.mp member
  exact (Tree.within_of_mem_reached reached).below isChild

theorem issues_refer (reported : issue ∈ issues root) : issue.Refers root "Exceptions" := by
  simp only [issues, List.mem_append, List.mem_flatMap] at reported
  rcases reported with (⟨clause, isClause, caught⟩ | again) | ⟨method, isAsync, blocking⟩
  · refine .statement clause (mem_descendants.mp (List.mem_filter.mp isClause).1) ?_ (by decide)
    simp only [clauseIssues, List.mem_append, List.mem_ite_nil_right,
      List.mem_singleton] at caught
    rcases caught with ⟨-, rfl⟩ | ⟨-, rfl⟩
    · exact Issue.violation_standsAt (by decide) _ _ _ _ _
    · exact Issue.violation_standsAt (by decide) _ _ _ _ _
  · obtain ⟨clause, isClause, rethrow, inside, rfl⟩ := mem_rethrowIssues again
    have below := mem_descendants.mp (List.mem_filter.mp isClause).1
    exact .statement rethrow.2 ((below_of_mem_rethrows inside).trans below)
      (Issue.violation_standsAt (by decide) _ _ _ _ _) (by decide)
  · obtain ⟨body, found, node, visited, call, rfl⟩ := mem_asyncIssues blocking
    have below := below_of_mem_methods (List.mem_filter.mp isAsync).1
    have inBody := (below_of_mem_ownNodes visited).deeper (List.mem_of_find?_eq_some found)
    exact .statement node (inBody.trans below)
      (Issue.violation_standsAt (by decide) _ _ _ _ _) (by decide)

end Exceptions

end Check

theorem Analyzer.builtin_refers {config : Config} {analyzer : Analyzer}
    (member : analyzer ∈ builtin config) {root : Node} {issue : Issue}
    (reported : issue ∈ (analyzer.inspect root).issues) :
    issue.Refers root analyzer.category := by
  simp only [builtin, List.mem_cons, List.not_mem_nil, or_false] at member
  rcases member with rfl | rfl | rfl | rfl | rfl | rfl | rfl
  · exact Check.Naming.issues_refer reported
  · exact Check.Complexity.issues_refer reported
  · exact Check.Documentation.issues_refer reported
  · exact Check.Duplication.issues_refer reported
  · exact Check.Unused.issues_refer reported
  · exact Check.Size.issues_refer reported
  · exact Check.Exceptions.issues_refer reported

/-! ## What a reference means for the source -/

namespace Issue

variable {source : Source} {tree origin : Concrete} {node : Node} {issue : Issue}

theorem StandsAt.position (stands : issue.StandsAt (source.spanOf origin))
    (fits : tree.Fits source) (within : origin.Within tree) :
    source.positionByCounting origin.label.start = ⟨issue.line, issue.column⟩ := by
  obtain ⟨ordered, inside⟩ := fits origin within
  rw [← source.position_eq (ordered.trans inside), stands.line, stands.column]
  rfl

theorem StandsAt.placed (stands : issue.StandsAt (source.spanOf origin))
    (fits : tree.Fits source) (within : origin.Within tree) : issue.Placed source tree := by
  have position := stands.position fits within
  refine ⟨?_, ?_, origin, within, position⟩
  · have line : _ + 1 = issue.line := congrArg Position.line position
    omega
  · have column : _ + 1 = issue.column := congrArg Position.column position
    omega

theorem Names.placed (names : issue.Names node) (fits : tree.Fits source)
    (originates : node.Originates source tree) : issue.Placed source tree := by
  cases names with
  | token token declared stands shown =>
      obtain ⟨origin, within, rfl⟩ := originates.tokens token declared
      exact stands.placed fits within
  | bare stands shown =>
      obtain ⟨origin, within, same⟩ := originates.span
      exact StandsAt.placed (same ▸ stands) fits within

theorem Names.quotes (names : issue.Names node) (fits : tree.Fits source)
    (originates : node.Originates source tree) : issue.Quotes source := by
  cases names with
  | token token declared stands shown =>
      obtain ⟨origin, within, rfl⟩ := originates.tokens token declared
      intro offset inside here
      obtain ⟨ordered, bounded⟩ := fits origin within
      -- Only one offset has the position of the issue: the one where the name starts.
      have same : offset = origin.label.start := source.positionByCounting_injective inside
        (ordered.trans bounded) (here.trans (stands.position fits within).symm)
      rw [shown, same]
      exact source.utf8_slice_isPrefix _ (ordered.trans bounded)
  | bare stands shown =>
      intro offset _ _
      rw [shown]
      exact List.nil_prefix

theorem Names.rule_ne (names : issue.Names node) : issue.rule ≠ .documentationScore := by
  cases names with
  | token _ _ stands _ => exact stands.rule
  | bare stands _ => exact stands.rule

theorem Refers.rule_ne {root : Node} {category : String} (refers : issue.Refers root category)
    (other : category ≠ "Documentation") : issue.rule ≠ .documentationScore := by
  cases refers with
  | declaration _ _ names => exact names.rule_ne
  | statement _ _ stands _ => exact stands.rule
  | whole documentation => exact absurd documentation other

theorem Refers.of_rule_eq {root : Node} {category : String} (refers : issue.Refers root category)
    (score : issue.rule = .documentationScore) : issue.line = 0 ∧ issue.column = 0 := by
  cases refers with
  | declaration _ _ names => exact absurd score names.rule_ne
  | statement _ _ stands _ => exact absurd score stands.rule
  | whole _ _ line column => exact ⟨line, column⟩

variable {place : Place} {category : String}

theorem Refers.placed (refers : issue.Refers (tree.convert source place) category)
    (fits : tree.Fits source) (noScore : issue.rule ≠ .documentationScore) :
    issue.Placed source tree := by
  cases refers with
  | declaration node below names =>
      exact names.placed fits (Concrete.originates_of_within (.inr below))
  | statement node below stands =>
      obtain ⟨origin, within, same⟩ := (Concrete.originates_of_within (.inr below)).span
      exact StandsAt.placed (same ▸ stands) fits within
  | whole _ score => exact absurd score noScore

theorem Refers.quotes (refers : issue.Refers (tree.convert source place) category)
    (fits : tree.Fits source) (naming : category ∈ namingCategories)
    (noScore : issue.rule ≠ .documentationScore) : issue.Quotes source := by
  cases refers with
  | declaration node below names =>
      exact names.quotes fits (Concrete.originates_of_within (.inr below))
  | statement _ _ _ other => exact absurd naming other
  | whole _ score => exact absurd score noScore

end Issue

/-! ## The findings of the built-in analyzers -/

namespace Linter

variable {config : Config} {root : Node} {fileName : String}

/-- The built-in analyzers have different categories, so their issues stand one after another. -/
theorem issues_builtinFindings (config : Config) (root : Node) (fileName : String) :
    (builtinFindings config root fileName).issues =
      (Analyzer.builtin config).flatMap fun analyzer =>
        Category.stamp analyzer.category (analyzer.inspect root).issues :=
  rfl

theorem mem_builtinFindings {issue : Issue}
    (member : issue ∈ (builtinFindings config root fileName).issues) :
    ∃ analyzer ∈ Analyzer.builtin config, ∃ bare ∈ (analyzer.inspect root).issues,
      issue = { bare with category := analyzer.category } := by
  rw [issues_builtinFindings] at member
  obtain ⟨analyzer, listed, stamped⟩ := List.mem_flatMap.mp member
  obtain ⟨bare, reported, rfl⟩ := List.mem_map.mp stamped
  exact ⟨analyzer, listed, bare, reported, rfl⟩

theorem countP_score_documentation (root : Node) :
    (Check.Documentation.issues root).countP (·.rule = .documentationScore) = 1 := by
  rw [Check.Documentation.issues, List.countP_append, List.countP_eq_zero.mpr, Nat.zero_add]
  · unfold Check.Documentation.score
    dsimp only
    split
    · rfl
    · rfl
  · intro issue reported
    obtain ⟨node, -, reported⟩ := List.mem_filterMap.mp reported
    simpa using (Check.Documentation.nodeIssue?_names reported).rule_ne

theorem countP_score {analyzer : Analyzer} (member : analyzer ∈ Analyzer.builtin config) :
    (Category.stamp analyzer.category (analyzer.inspect root).issues).countP
        (·.rule = .documentationScore) =
      if analyzer.category = "Documentation" then 1 else 0 := by
  rw [Category.stamp, List.countP_map]
  by_cases documentation : analyzer.category = "Documentation"
  · have only : analyzer ∈ (Analyzer.builtin config).filter (·.category = "Documentation") :=
      List.mem_filter.mpr ⟨member, by simpa using documentation⟩
    obtain rfl : analyzer = .ofCheck "documentation" "Documentation" Check.Documentation.issues :=
      List.mem_singleton.mp only
    exact countP_score_documentation root
  · rw [if_neg documentation, List.countP_eq_zero]
    intro bare reported
    simpa using (Analyzer.builtin_refers member reported).rule_ne documentation

theorem countP_score_builtinFindings (config : Config) (root : Node) (fileName : String) :
    (builtinFindings config root fileName).issues.countP (·.rule = .documentationScore) = 1 := by
  rw [issues_builtinFindings, List.countP_flatMap]
  simp only [Function.comp_def]
  rw [List.map_congr_left fun analyzer member => countP_score member]
  rfl

end Linter

namespace Check.Sample

def source : Source := { text := "\ninterface I\x7b\x7d" }

def tree : Concrete :=
  .node { kind := "compilation_unit", named := true, start := 1, stop := 14 }
    [.node { kind := "interface_declaration", named := true, start := 1, stop := 14 }
      [.node { kind := "interface", named := false, start := 1, stop := 10 } [],
       .node { kind := "identifier", named := true, field := some "name", start := 11, stop := 12 }
         [],
       .node { kind := "declaration_list", named := true, start := 12, stop := 14 }
         [.node { kind := "\x7b", named := false, start := 12, stop := 13 } [],
          .node { kind := "\x7d", named := false, start := 13, stop := 14 } []]]]

end Check.Sample

open Linter

/-- Whatever the built-in analyzers find in a source points at a node of its tree, and names stand
where the findings show them. The score is the one finding without a place. -/
theorem findings_point_at_source (config : Config) (source : Source) (tree : Concrete)
    (fileName : String) (fits : tree.Fits source) :
    (builtinFindings config (tree.convert source {}) fileName).PointAt source tree where
  placed issue member noScore := by
    obtain ⟨analyzer, listed, bare, reported, rfl⟩ := mem_builtinFindings member
    obtain ⟨line, column, starts⟩ := (Analyzer.builtin_refers listed reported).placed fits noScore
    exact ⟨line, column, starts⟩
  quotes issue member naming noScore := by
    obtain ⟨analyzer, listed, bare, reported, rfl⟩ := mem_builtinFindings member
    exact (Analyzer.builtin_refers listed reported).quotes fits naming noScore
  unplaced issue member := by
    obtain ⟨analyzer, listed, bare, reported, rfl⟩ := mem_builtinFindings member
    have refers := Analyzer.builtin_refers listed reported
    constructor
    · rintro ⟨nowhere, -⟩
      by_contra noScore
      exact Nat.ne_of_gt (refers.placed fits noScore).line nowhere
    · exact refers.of_rule_eq
  score := countP_score_builtinFindings config _ fileName

open Check.Sample in
theorem findings_point_at_source_interface :
    tree.Fits source ∧
    ((builtinFindings {} (tree.convert source {}) "x.cs").issues.map fun issue =>
      (issue.category, issue.line, issue.column, issue.snippet)) =
        [("Documentation", 2, 11, "I"), ("Documentation", 0, 0, "")] ∧
    (builtinFindings {} (tree.convert source {}) "x.cs").PointAt source tree := by
  have fits : tree.Fits source := by decide
  exact ⟨fits, by decide, findings_point_at_source {} source tree "x.cs" fits⟩

end SharpLint
