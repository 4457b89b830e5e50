import SharpLint.Linter
import SharpLint.Proofs.Check.Clusters
import SharpLint.Proofs.Check.DeadDeclarations
import SharpLint.Proofs.Syntax.Unplaced

/-!
# Checks of trees without their places

Each check finds the same issues in a syntax tree and in the tree without its spans, but for the
places of the issues (`SameIssues`). For exceptions that holds of each kind of finding apart from
rethrows, which are told apart by where they start.
-/

namespace SharpLint

/-- The issue without its place. Its summary mentions the place, so that is left out too. -/
def Issue.unplaced (issue : Issue) : Issue := { issue with line := 0, column := 0, detail := none }

theorem Issue.unplaced_ite {condition : Prop} [Decidable condition]
    {issue other more moreOther : Option Issue} (same : issue.map unplaced = other.map unplaced)
    (alsoSame : more.map unplaced = moreOther.map unplaced) :
    (if condition then issue else more).map unplaced =
      (if condition then other else moreOther).map unplaced := by
  split
  · exact same
  · exact alsoSame

def SameIssues (issues others : List Issue) : Prop :=
  issues.map Issue.unplaced = others.map Issue.unplaced

namespace SameIssues

theorem refl (issues : List Issue) : SameIssues issues issues := rfl

theorem append {issues others more moreOthers : List Issue} (same : SameIssues issues others)
    (alsoSame : SameIssues more moreOthers) :
    SameIssues (issues ++ more) (others ++ moreOthers) := by
  rw [SameIssues, List.map_append, List.map_append, same, alsoSame]

theorem flatMap {α : Type} {places : List α} {reported alsoReported : α → List Issue}
    (same : ∀ place ∈ places, SameIssues (reported place) (alsoReported place)) :
    SameIssues (places.flatMap reported) (places.flatMap alsoReported) := by
  rw [SameIssues, List.map_flatMap, List.map_flatMap]
  exact List.flatMap_congr same

theorem filterMap {α : Type} {places : List α} {reported alsoReported : α → Option Issue}
    (same : ∀ place ∈ places,
      (reported place).map Issue.unplaced = (alsoReported place).map Issue.unplaced) :
    SameIssues (places.filterMap reported) (places.filterMap alsoReported) := by
  rw [SameIssues, List.map_filterMap, List.map_filterMap]
  exact List.filterMap_congr same

theorem ite {condition : Prop} [Decidable condition] {issues others more moreOthers : List Issue}
    (same : SameIssues issues others) (alsoSame : SameIssues more moreOthers) :
    SameIssues (if condition then issues else more) (if condition then others else moreOthers) := by
  split
  · exact same
  · exact alsoSame

theorem of_unplaced {check : Node → List Issue}
    (each : ∀ root : Node, SameIssues (check root.unplaced) (check root)) {tree other : Node}
    (same : tree.unplaced = other.unplaced) : SameIssues (check tree) (check other) := by
  have unplaced := each tree
  rw [same] at unplaced
  exact unplaced.symm.trans (each other)

end SameIssues

namespace Check

/-! ## Names -/

namespace Naming

variable (keywords : Names.KeywordTable) (node : Node)

@[simp] theorem bareName_unplaced (token : Token) : bareName token.unplaced = bareName token := rfl

theorem typeIssues_unplaced :
    SameIssues (typeIssues keywords node.unplaced) (typeIssues keywords node) := by
  simp only [typeIssues, Node.label_unplaced, Node.Label.unplaced, Node.kind_unplaced]
  cases node.label.identifier with
  | none => exact .refl _
  | some token =>
      simp only [Option.map_some, bareName_unplaced]
      exact .ite (.refl _) rfl

theorem methodNameIssues_unplaced :
    SameIssues (methodNameIssues keywords node.unplaced) (methodNameIssues keywords node) := by
  simp only [methodNameIssues, Node.label_unplaced, Node.Label.unplaced, Node.hasModifier_unplaced]
  cases node.label.identifier with
  | none => exact .refl _
  | some token =>
      simp only [Option.map_some, bareName_unplaced]
      exact .append (.ite (.refl _) rfl) (.ite rfl (.refl _))

theorem parameterIssues_unplaced (parameter : Token) :
    SameIssues (parameterIssues keywords parameter.unplaced)
      (parameterIssues keywords parameter) := by
  simp only [parameterIssues, bareName_unplaced]
  refine .ite ?_ (.ite (.refl _) rfl)
  cases (bareName parameter).toList.dropWhile (· == '_') with
  | nil => exact .refl _
  | cons c cs => rfl

theorem bodyPlaceholders_unplaced (body : Node) :
    bodyPlaceholders body.unplaced = bodyPlaceholders body := by
  simp [bodyPlaceholders, List.flatMap_map]

theorem placeholderIssues_unplaced :
    SameIssues (placeholderIssues keywords node.unplaced) (placeholderIssues keywords node) := by
  rw [placeholderIssues, placeholderIssues, Node.label_unplaced, Node.body?_unplaced]
  cases node.body? with
  | none => exact .refl _
  | some body =>
      have shown : shownParameter? (node.label.parameters.map Token.unplaced) =
          shownParameter? node.label.parameters := by
        funext placeholder
        simp [shownParameter?, List.findIdx?_map, Function.comp_def]
      rw [Option.map_some]
      dsimp only [Node.Label.unplaced]
      rw [shown, bodyPlaceholders_unplaced, List.zipIdx_map, List.filterMap_map]
      exact .filterMap fun place _ => Issue.unplaced_ite rfl rfl

theorem methodIssues_unplaced :
    SameIssues (methodIssues keywords node.unplaced) (methodIssues keywords node) := by
  refine .append (.append (methodNameIssues_unplaced keywords node) ?_)
    (placeholderIssues_unplaced keywords node)
  rw [Node.label_unplaced, Node.Label.unplaced, List.flatMap_map]
  exact .flatMap fun parameter _ => parameterIssues_unplaced keywords parameter

theorem fieldNameIssues_unplaced (isPrivate : Bool) (token : Token) :
    SameIssues (fieldNameIssues keywords isPrivate token.unplaced)
      (fieldNameIssues keywords isPrivate token) := by
  simp only [fieldNameIssues, bareName_unplaced]
  refine .append (.append ?_ (.ite rfl (.refl _))) ?_
  · split
    · exact .ite rfl (.refl _)
    · exact .refl _
  · split
    · exact .ite (.refl _) rfl
    · exact .refl _

theorem fieldIssues_unplaced :
    SameIssues (fieldIssues keywords node.unplaced) (fieldIssues keywords node) := by
  rw [fieldIssues, Node.isPrivate, Node.hasModifier_unplaced, Node.label_unplaced,
    Node.Label.unplaced, List.flatMap_map]
  exact .flatMap fun token _ => fieldNameIssues_unplaced keywords _ token

theorem issues_unplaced (root : Node) :
    SameIssues (issues keywords root.unplaced) (issues keywords root) := by
  rw [issues, Node.descendants_unplaced, List.flatMap_map]
  apply SameIssues.flatMap
  intro node _
  simp only [nodeIssues, Node.kind_unplaced]
  split
  · exact typeIssues_unplaced keywords node
  · exact typeIssues_unplaced keywords node
  · exact methodIssues_unplaced keywords node
  · exact fieldIssues_unplaced keywords node
  · exact .refl _

end Naming

/-! ## Methods and documentation -/

namespace Complexity

theorem cyclomatic_unplaced (body : Node) : cyclomatic body.unplaced = cyclomatic body := by
  simp [cyclomatic, List.foldr_map]

theorem issues_unplaced (limits : ComplexityLimits) (root : Node) :
    SameIssues (issues limits root.unplaced) (issues limits root) := by
  rw [issues, Node.methods_unplaced, List.filterMap_map]
  apply SameIssues.filterMap
  intro method _
  rw [Function.comp_apply, Node.body?_unplaced]
  cases Node.body? method with
  | none => rfl
  | some body =>
      simp only [Option.map_some, methodIssue, cyclomatic_unplaced, Node.name_unplaced]
      split
      · rfl
      · rfl

end Complexity

namespace Documentation

theorem isSurface_unplaced (node : Node) : isSurface node.unplaced = isSurface node := by
  simp [isSurface, Node.isPublic]

theorem undocumentedParameters_unplaced (node : Node) (comment : String) :
    undocumentedParameters node.unplaced comment = undocumentedParameters node comment := by
  simp [undocumentedParameters, Node.Label.unplaced, Function.comp_def]

theorem isDocumented_unplaced (node : Node) : isDocumented node.unplaced = isDocumented node := by
  simp only [isDocumented, Node.label_unplaced, Node.Label.unplaced]
  cases node.label.docComment with
  | none => rfl
  | some comment => simp [undocumentedParameters_unplaced]

theorem nodeIssue?_unplaced (node : Node) :
    (nodeIssue? node.unplaced).map Issue.unplaced = (nodeIssue? node).map Issue.unplaced := by
  simp only [nodeIssue?, Node.kind_unplaced, Node.name_unplaced, Node.label_unplaced,
    Node.Label.unplaced]
  cases node.label.docComment with
  | none => rfl
  | some comment =>
      simp only [Option.map_some, Token.text_unplaced, undocumentedParameters_unplaced]
      cases undocumentedParameters node comment.text with
      | nil => exact Issue.unplaced_ite rfl rfl
      | cons first others => rfl

theorem issues_unplaced (root : Node) : SameIssues (issues root.unplaced) (issues root) := by
  rw [issues, issues, root.filter_descendants_unplaced isSurface_unplaced]
  refine .append ?_ ?_
  · rw [List.filterMap_map]
    exact .filterMap fun node _ => nodeIssue?_unplaced node
  · simp only [List.countP_map, Function.comp_def, isDocumented_unplaced, List.length_map]
    exact .refl _

end Documentation

/-! ## Blocks -/

namespace Duplication

theorem groupBy_map {α β : Type} (f : α → β) (key : β → String) (members : List α) :
    groupBy key (members.map f) =
      (groupBy (fun member => key (f member)) members).map fun (name, group) =>
        (name, group.map f) := by
  simp only [groupBy_eq, List.map_map, List.filter_map]
  rfl

def unplacedMember (member : Node × Nat) : Node × Nat := (Node.unplaced member.1, member.2)

theorem candidates_unplaced (root : Node) (minStatements : Nat) :
    candidates root.unplaced minStatements =
      (candidates root minStatements).map unplacedMember := by
  have numbered : root.unplaced.numberedDescendants =
      root.numberedDescendants.map unplacedMember := by
    rw [Tree.numberedDescendants, Node.descendants_unplaced, List.zipIdx_map]
    rfl
  rw [candidates, numbered, List.filter_map, candidates]
  congr 2
  funext member
  simp [unplacedMember, isCandidate]

theorem clusters_unplaced (root : Node) (minStatements : Nat) :
    clusters root.unplaced minStatements =
      (clusters root minStatements).map (List.map unplacedMember) := by
  have digests : (fun member => blockDigest (unplacedMember member).1) =
      fun member : Node × Nat => blockDigest member.1 := by
    funext member
    simp [unplacedMember, blockDigest]
  rw [clusters, candidates_unplaced, groupBy_map, List.map_map, clusters, List.filter_map]
  rw [digests, List.filter_map, List.map_map]
  simp only [Function.comp_def, List.length_map]

theorem clusterIssues_eq (limits : DuplicationLimits) (members : List (Node × Nat)) :
    clusterIssues limits members =
      let shown := (members.head?.map fun member => Node.canonicalForm member.1).getD ""
      members.map fun member =>
        memberIssue members.length (Text.preview shown limits.previewCharacters) member.1 :=
  rfl

theorem issues_unplaced (limits : DuplicationLimits) (root : Node) :
    SameIssues (issues limits root.unplaced) (issues limits root) := by
  rw [issues, clusters_unplaced, List.flatMap_map]
  apply SameIssues.flatMap
  intro members _
  have first : (members.map unplacedMember).head?.map (fun member => Node.canonicalForm member.1) =
      members.head?.map fun member => Node.canonicalForm member.1 := by
    cases members with
    | nil => rfl
    | cons first others => simp [unplacedMember]
  rw [clusterIssues_eq, clusterIssues_eq, first, List.length_map, SameIssues, List.map_map,
    List.map_map, List.map_map]
  rfl

end Duplication

/-! ## Uses -/

namespace Unused

theorem isCalled_unplaced (root : Node) (name : String) :
    isCalled root.unplaced name = isCalled root name := by
  simp [isCalled, List.any_map, Function.comp_def]

theorem unused_unplaced {unused alsoUnused : Token → Bool} {rule : Rule}
    {description : Token → String} {suggestion : String} (tokens : List Token)
    (worded : ∀ token : Token, description token.unplaced = description token)
    (same : ∀ token : Token, unused token.unplaced = alsoUnused token) :
    SameIssues
      (((tokens.map Token.unplaced).filter unused).map fun token =>
        dead rule token (description token) suggestion)
      ((tokens.filter alsoUnused).map fun token =>
        dead rule token (description token) suggestion) := by
  have kept : unused ∘ Token.unplaced = alsoUnused := funext same
  rw [List.filter_map, kept, SameIssues, List.map_map, List.map_map, List.map_map]
  apply List.map_congr_left
  intro token _
  simp only [Function.comp_apply, worded]
  rfl

/-- The scope of locals inside a node that stands in a scope. -/
def innerScope (scope node : Node) : Node := if node.isMethod then node.body?.getD scope else scope

theorem withScopes_cons (scope tree : Node) :
    withScopes scope tree =
      (tree, scope) :: withScopesAll (innerScope scope tree) tree.children := by
  cases tree with
  | node label children => rfl

theorem innerScope_unplaced (scope node : Node) :
    innerScope scope.unplaced node.unplaced = (innerScope scope node).unplaced := by
  rw [innerScope, innerScope, Node.isMethod_unplaced, Node.body?_unplaced]
  split
  · exact Option.getD_map _ _ _
  · rfl

theorem withScopes_unplaced (scope tree : Node) :
    withScopes scope.unplaced tree.unplaced =
      (withScopes scope tree).map fun (node, scope) => (node.unplaced, scope.unplaced) := by
  induction tree using Tree.induction generalizing scope with
  | node label children ih =>
      rw [withScopes_cons, withScopes_cons, innerScope_unplaced, Node.children_unplaced,
        withScopesAll_eq_flatMap, withScopesAll_eq_flatMap, List.map_cons, List.flatMap_map,
        List.map_flatMap]
      congr 1
      exact List.flatMap_congr fun child isChild => ih child isChild _

theorem localIssues_unplaced (root : Node) :
    SameIssues (localIssues root.unplaced) (localIssues root) := by
  have visited : withScopesAll root.unplaced root.unplaced.children =
      (withScopesAll root root.children).map fun (node, scope) =>
        (node.unplaced, scope.unplaced) := by
    rw [withScopesAll_eq_flatMap, withScopesAll_eq_flatMap, Node.children_unplaced,
      List.flatMap_map, List.map_flatMap]
    exact List.flatMap_congr fun child _ => withScopes_unplaced root child
  rw [localIssues, visited, List.flatMap_map]
  apply SameIssues.flatMap
  rintro ⟨node, scope⟩ _
  dsimp only
  rw [Node.kind_unplaced, Node.label_unplaced]
  refine .ite (unused_unplaced _ (fun _ => rfl) fun token => ?_) (.refl _)
  rw [Node.references_unplaced, Token.text_unplaced]

theorem parameterIssues_unplaced (method : Node) :
    SameIssues (parameterIssues method.unplaced) (parameterIssues method) := by
  rw [parameterIssues, parameterIssues, Node.body?_unplaced]
  cases method.body? with
  | none => exact .refl _
  | some body =>
      dsimp only [Option.map_some]
      rw [Node.label_unplaced, Node.name_unplaced]
      refine unused_unplaced _ (fun _ => rfl) fun token => ?_
      rw [Node.references_unplaced, Token.text_unplaced]

theorem fieldIssues_unplaced (root field : Node) :
    SameIssues (fieldIssues root.unplaced field.unplaced) (fieldIssues root field) := by
  rw [fieldIssues, Node.label_unplaced]
  refine unused_unplaced _ (fun _ => rfl) fun token => ?_
  rw [Node.references_unplaced, Token.text_unplaced]

theorem methodIssues_unplaced (root method : Node) :
    SameIssues (methodIssues root.unplaced method.unplaced) (methodIssues root method) := by
  rw [methodIssues, methodIssues, Node.label_unplaced]
  dsimp only [Node.Label.unplaced]
  cases method.label.identifier with
  | none => exact .refl _
  | some token =>
      dsimp only [Option.map_some]
      rw [isCalled_unplaced, Node.references_unplaced]
      exact .ite (.refl _) rfl

theorem privateOfKind_unplaced (root : Node) (kind : Kind) :
    privateOfKind root.unplaced kind = (privateOfKind root kind).map Node.unplaced :=
  root.filter_descendants_unplaced fun node => by simp [Node.isPrivate]

theorem issues_unplaced (root : Node) : SameIssues (issues root.unplaced) (issues root) := by
  rw [issues, issues, Node.methods_unplaced, privateOfKind_unplaced, privateOfKind_unplaced,
    List.flatMap_map, List.flatMap_map, List.flatMap_map]
  refine .append (.append (.append (localIssues_unplaced root) ?_) ?_) ?_
  · exact .flatMap fun method _ => parameterIssues_unplaced method
  · exact .flatMap fun field _ => fieldIssues_unplaced root field
  · exact .flatMap fun method _ => methodIssues_unplaced root method

end Unused

/-! ## Exceptions -/

namespace Exceptions

theorem isGeneric_unplaced (clause : Node) : isGeneric clause.unplaced = isGeneric clause := by
  simp only [isGeneric, Node.label_unplaced, Node.Label.unplaced]
  cases clause.label.declaredType with
  | none => rfl
  | some type => rfl

theorem isEmpty_unplaced (clause : Node) : isEmpty clause.unplaced = isEmpty clause := by
  simp only [isEmpty, Node.block?_unplaced]
  cases clause.block? with
  | none => rfl
  | some block => simp

theorem clauseIssues_unplaced (clause : Node) :
    SameIssues (clauseIssues clause.unplaced) (clauseIssues clause) := by
  have caught : clause.unplaced.label.declaredType.map (·.text) =
      clause.label.declaredType.map (·.text) := by
    simp [Node.Label.unplaced, Function.comp_def]
  simp only [clauseIssues, isGeneric_unplaced, isEmpty_unplaced, caught]
  exact .append (.ite rfl (.refl _)) (.ite rfl (.refl _))

theorem ownNodes_unplaced (body : Node) :
    ownNodes body.unplaced = (ownNodes body).map Node.unplaced := by
  simp only [ownNodes, Tree.Walk.toList_eq, Node.children_unplaced, List.flatMap_map,
    List.map_flatMap, Node.reached_unplaced, Node.isMethod_unplaced]

theorem blockingText?_unplaced (node : Node) :
    blockingText? node.unplaced = blockingText? node := by
  simp only [blockingText?, Node.kind_unplaced, Node.canonicalForm_unplaced]

theorem asyncIssues_unplaced (method : Node) :
    SameIssues (asyncIssues method.unplaced) (asyncIssues method) := by
  rw [asyncIssues, asyncIssues, Node.body?_unplaced]
  cases method.body? with
  | none => exact .refl _
  | some body =>
      dsimp only [Option.map_some]
      rw [ownNodes_unplaced, List.filterMap_map]
      apply SameIssues.filterMap
      intro node _
      rw [Function.comp_apply, blockingText?_unplaced, Option.map_map, Option.map_map]
      congr 1
      funext call
      simp only [Function.comp_apply, blockingIssue, Node.name_unplaced]
      rfl

def caughtIssues (root : Node) : List Issue :=
  (root.descendants.filter fun node => Node.kind node = .catchClause).flatMap clauseIssues

def blockingIssues (root : Node) : List Issue :=
  (root.methods.filter fun method => Node.hasModifier method .async).flatMap asyncIssues

theorem caughtIssues_unplaced (root : Node) :
    SameIssues (caughtIssues root.unplaced) (caughtIssues root) := by
  rw [caughtIssues, root.filter_descendants_unplaced (by simp), List.flatMap_map]
  exact .flatMap fun clause _ => clauseIssues_unplaced clause

theorem blockingIssues_unplaced (root : Node) :
    SameIssues (blockingIssues root.unplaced) (blockingIssues root) := by
  rw [blockingIssues, Node.methods_unplaced, List.filter_map, List.flatMap_map]
  simp only [Function.comp_def, Node.hasModifier_unplaced]
  exact .flatMap fun method _ => asyncIssues_unplaced method

theorem throwsVariable_unplaced (caught : String) (statement : Node) :
    throwsVariable caught statement.unplaced = throwsVariable caught statement := by
  simp only [throwsVariable, Node.kind_unplaced, Node.operand?_unplaced]
  cases statement.operand? with
  | none => rfl
  | some operand => simp

end Exceptions

end Check

end SharpLint
