import Mathlib.Data.List.Forall2
import SharpLint.Check.Unused
import SharpLint.Proofs.Check.Reports
import SharpLint.Proofs.Text.Searching
import SharpLint.Proofs.Tree.Walks

/-!
# Dead declarations

What the check reports is stated here from the declarations' side: `declarations` lists the names
that are looked at, each with the scope in which it may be used and what is said about it if it is
dead, and `Declaration.Dead` says when nobody uses it. The check carries the scope of locals inwards
on its way through the tree; `withScopes_eq` finds it by looking outwards instead, at the methods
around a node.
-/

namespace SharpLint.Check.Unused

/-- A declared name, the scope in which it may be used, and what is said if it is not. -/
structure Declaration where
  rule : Rule
  token : Token
  scope : Node
  description : String
  suggestion : String

def Mentions (scope : Node) (name : String) : Prop :=
  ∃ node : Node, node.Below scope ∧ node.kind = .reference ∧ node.text = some name

/-- The name stands in the text at its start or behind a dot, and at its end or before an opening
bracket. It holds no dot, and no bracket is opened before it ends. -/
def Denotes (text name : List Char) : Prop :=
  ∃ front back, text = front ++ name ++ back ∧ '<' ∉ front ++ name ∧ '.' ∉ name ∧
    (∀ c ∈ front.getLast?, c = '.') ∧ ∀ c ∈ back.head?, c = '<'

def Calls (scope : Node) (name : String) : Prop :=
  ∃ node : Node, node.Below scope ∧
    ∃ callee arguments, node.kind = .invocation callee arguments ∧
      Denotes callee.toList name.toList

/-- Nobody uses the name. A lone underscore says so itself, as a local or a parameter; a method is
also used when it is called. -/
def Declaration.Dead (declaration : Declaration) : Prop :=
  ¬Mentions declaration.scope declaration.token.text ∧
    (declaration.rule = .unusedLocal ∨ declaration.rule = .unusedParameter →
      declaration.token.text ≠ "_") ∧
    (declaration.rule = .unusedPrivateMethod →
      ¬Calls declaration.scope declaration.token.text)

/-- The first child that is a block, or an expression that stands for one. -/
def bodyOf (method : Node) : Option Node :=
  method.children.find? fun child : Node =>
    child.kind = .block ∨ child.kind = .expressionBody

/-- The body of the innermost method with a body among the nodes around a place, which are listed
from the innermost outwards; the root if there is none. -/
def scopeWithin (root : Node) (around : List Node) : Node :=
  (around.findSome? fun node => if node.kind = .methodDecl then bodyOf node else none).getD
    root

def locals (root : Node) : List Declaration :=
  root.lineages.flatMap fun (node, around) =>
    if Node.kind node = .localDecl then
      node.label.declarators.map fun token =>
        { rule := .unusedLocal
          token
          scope := scopeWithin root around
          description := "Local variable '" ++ token.text ++ "' is never used"
          suggestion := "Remove the variable or use it" }
    else []

def parameters (root : Node) : List Declaration :=
  root.lineages.flatMap fun (method, _) =>
    if Node.kind method = .methodDecl then
      (bodyOf method).toList.flatMap fun body =>
        method.label.parameters.map fun token =>
          { rule := .unusedParameter
            token
            scope := body
            description := "Parameter '" ++ token.text ++ "' of method '" ++
              method.label.identifier.elim "" (·.text) ++ "' is never used"
            suggestion := "Remove the parameter or use it" }
    else []

def privateFields (root : Node) : List Declaration :=
  root.lineages.flatMap fun (field, _) =>
    if Node.kind field = .fieldDecl ∧ .privateAccess ∈ field.label.modifiers then
      field.label.declarators.map fun token =>
        { rule := .unusedPrivateField
          token
          scope := root
          description := "Private field '" ++ token.text ++ "' is never used"
          suggestion := "Remove the field or use it" }
    else []

def privateMethods (root : Node) : List Declaration :=
  root.lineages.flatMap fun (method, _) =>
    if Node.kind method = .methodDecl ∧ .privateAccess ∈ method.label.modifiers then
      method.label.identifier.toList.map fun token =>
        { rule := .unusedPrivateMethod
          token
          scope := root
          description := "Private method '" ++ token.text ++ "' is never used"
          suggestion := "Remove the method or call it" }
    else []

def declarations (root : Node) : List Declaration :=
  locals root ++ parameters root ++ privateFields root ++ privateMethods root

/-- The issue is a failure of the declaration's rule at the declared name, and shows that name. -/
structure Reports (declaration : Declaration) (issue : Issue) : Prop where
  rule : issue.rule = declaration.rule
  failing : issue.passed = false
  line : issue.line = declaration.token.span.startLine
  column : issue.column = declaration.token.span.startColumn
  snippet : issue.snippet = declaration.token.text
  description : issue.description = declaration.description
  suggestion : issue.suggestion = declaration.suggestion

/-! ## Uses -/

theorem references_iff {scope : Node} {name : String} :
    scope.references name = true ↔ Mentions scope name := by
  simp only [Node.references, List.any_eq_true, Tree.mem_descendants, Bool.and_eq_true,
    decide_eq_true_eq, Mentions]

theorem calledName_eq_iff {text name : String} :
    calledName text = name ↔ Denotes text.toList name.toList := by
  rw [calledName, ← String.toList_inj, String.toList_ofList, Text.afterLast_eq_iff, Denotes]
  refine exists_congr fun front => ?_
  rw [Text.takeWhile_eq_iff]
  constructor
  · rintro ⟨⟨back, split, unopened, ends⟩, undotted, starts⟩
    refine ⟨back, split, fun member => ?_, undotted, starts, by simpa using ends⟩
    simpa using unopened '<' member
  · rintro ⟨back, split, unopened, undotted, starts, ends⟩
    refine ⟨⟨back, split, fun c member => ?_, by simpa using ends⟩, undotted, starts⟩
    simpa using ne_of_mem_of_not_mem member unopened

theorem isCalled_iff {scope : Node} {name : String} :
    isCalled scope name = true ↔ Calls scope name := by
  simp only [isCalled, List.any_eq_true, Tree.mem_descendants, Calls, ← calledName_eq_iff]
  refine exists_congr fun node => and_congr_right fun _ => ?_
  constructor
  · intro called
    split at called
    · rename_i callee arguments kind
      exact ⟨callee, arguments, kind, by simpa using called⟩
    · cases called
  · rintro ⟨callee, arguments, kind, same⟩
    rw [kind]
    simpa using same

instance (scope : Node) (name : String) : Decidable (Mentions scope name) :=
  decidable_of_iff _ references_iff

instance (scope : Node) (name : String) : Decidable (Calls scope name) :=
  decidable_of_iff _ isCalled_iff

instance (declaration : Declaration) : Decidable declaration.Dead :=
  inferInstanceAs (Decidable (_ ∧ _ ∧ _))

/-! ## Scopes -/

theorem body?_eq_bodyOf (method : Node) : method.body? = bodyOf method := by
  have same : Node.isBody =
      fun child => decide (child.kind = .block ∨ child.kind = .expressionBody) := by
    funext child
    simp [Node.isBody]
  rw [Node.body?, same, bodyOf]

theorem scopeWithin_cons (root node : Node) (around : List Node) :
    scopeWithin root (node :: around) =
      if node.isMethod then node.body?.getD (scopeWithin root around)
      else scopeWithin root around := by
  rw [scopeWithin, List.findSome?_cons, body?_eq_bodyOf]
  simp only [Node.isMethod, decide_eq_true_eq]
  by_cases method : Node.kind node = .methodDecl
  · rw [if_pos method, if_pos method]
    cases bodyOf node with
    | none => rfl
    | some body => rfl
  · rw [if_neg method, if_neg method]
    rfl

theorem withScopesAll_eq_flatMap (scope : Node) (trees : List Node) :
    withScopesAll scope trees = trees.flatMap (withScopes scope) := by
  induction trees with
  | nil => rfl
  | cons tree trees ih => rw [withScopesAll, ih, List.flatMap_cons]

theorem withScopes_eq (root : Node) (around : List Node) (tree : Node) :
    withScopes (scopeWithin root around) tree =
      (tree.lineagesWithin around).map fun (node, around) => (node, scopeWithin root around) := by
  induction tree using Tree.induction generalizing around with
  | node label children ih =>
      rw [withScopes, Tree.lineagesWithin, Tree.lineagesWithinAll_eq_flatMap, List.map_cons,
        List.map_flatMap]
      dsimp only
      rw [← scopeWithin_cons, withScopesAll_eq_flatMap]
      congr 1
      apply List.flatMap_congr
      intro child isChild
      exact ih child isChild _

theorem withScopesAll_children (root : Node) :
    withScopesAll root root.children =
      root.lineages.map fun (node, around) => (node, scopeWithin root around) := by
  rw [withScopesAll_eq_flatMap, Tree.lineages, Tree.lineagesWithinAll_eq_flatMap, List.map_flatMap]
  apply List.flatMap_congr
  intro child _
  exact withScopes_eq root [] child

/-! ## Reports -/

theorem reports_dead {declaration : Declaration} {description : String}
    (said : description = declaration.description) :
    Reports declaration
      (dead declaration.rule declaration.token description declaration.suggestion) :=
  ⟨rfl, rfl, rfl, rfl, rfl, said, rfl⟩

theorem reports_tokens {declare : Token → Declaration} {unused : Token → Bool}
    {report : Token → Issue} (tokens : List Token)
    (decides : ∀ token, unused token = true ↔ (declare token).Dead)
    (reports : ∀ token, Reports (declare token) (report token)) :
    List.Forall₂ Reports ((tokens.map declare).filter (·.Dead))
      ((tokens.filter unused).map report) := by
  have same : tokens.filter ((fun declaration : Declaration => decide declaration.Dead) ∘ declare) =
      tokens.filter unused := by
    apply List.filter_congr
    intro token _
    rw [Bool.eq_iff_iff, decides]
    exact decide_eq_true_iff
  rw [List.filter_map, same, List.forall₂_map_left_iff, List.forall₂_map_right_iff,
    List.forall₂_same]
  intro token _
  exact reports token

theorem reports_flatMap {α : Type} {places : List α} {declared : α → List Declaration}
    {reported : α → List Issue}
    (each : ∀ place ∈ places,
      List.Forall₂ Reports ((declared place).filter (·.Dead)) (reported place)) :
    List.Forall₂ Reports ((places.flatMap declared).filter (·.Dead))
      (places.flatMap reported) := by
  rw [List.filter_flatMap]
  exact forall₂_flatMap each

theorem reports_ite {condition : Prop} [Decidable condition] {declared : List Declaration}
    {reported : List Issue}
    (reports : condition → List.Forall₂ Reports (declared.filter (·.Dead)) reported) :
    List.Forall₂ Reports ((if condition then declared else []).filter (·.Dead))
      (if condition then reported else []) := by
  by_cases holds : condition
  · rw [if_pos holds, if_pos holds]
    exact reports holds
  · rw [if_neg holds, if_neg holds]
    exact .nil

theorem localIssues_reports (root : Node) :
    List.Forall₂ Reports ((locals root).filter (·.Dead)) (localIssues root) := by
  rw [localIssues, withScopesAll_children, List.flatMap_map]
  apply reports_flatMap
  intro place _
  apply reports_ite
  intro _
  apply reports_tokens
  · intro token
    simp [Declaration.Dead, ← references_iff, and_comm]
  · intro token
    exact reports_dead (by simp [toString])

theorem parameterIssues_reports (root : Node) :
    List.Forall₂ Reports ((parameters root).filter (·.Dead))
      (root.methods.flatMap parameterIssues) := by
  rw [Node.methods, Tree.flatMap_filter_descendants]
  apply reports_flatMap
  rintro ⟨method, around⟩ _
  simp only [Node.isMethod, decide_eq_true_eq]
  apply reports_ite
  intro _
  rw [parameterIssues, body?_eq_bodyOf]
  cases bodyOf method with
  | none => exact .nil
  | some body =>
      rw [Option.toList_some, List.flatMap_singleton]
      apply reports_tokens
      · intro token
        simp [Declaration.Dead, ← references_iff, and_comm]
      · intro token
        apply reports_dead
        cases named : method.label.identifier <;> simp [toString, Node.name, named]

theorem privateOfKind_flatMap (root : Node) (kind : Kind) (reported : Node → List Issue) :
    (privateOfKind root kind).flatMap reported =
      root.lineages.flatMap fun (node, _) =>
        if Node.kind node = kind ∧ .privateAccess ∈ node.label.modifiers then reported node
        else [] := by
  rw [privateOfKind, Tree.flatMap_filter_descendants]
  simp [Node.isPrivate, Node.hasModifier]

theorem fieldIssues_reports (root : Node) :
    List.Forall₂ Reports ((privateFields root).filter (·.Dead))
      ((privateOfKind root .fieldDecl).flatMap (fieldIssues root)) := by
  rw [privateOfKind_flatMap]
  apply reports_flatMap
  intro place _
  apply reports_ite
  intro _
  apply reports_tokens
  · intro token
    simp [Declaration.Dead, ← references_iff]
  · intro token
    exact reports_dead (by simp [toString])

theorem methodIssues_eq (root method : Node) :
    methodIssues root method =
      (method.label.identifier.toList.filter fun token =>
        !(isCalled root token.text || root.references token.text)).map fun token =>
          dead .unusedPrivateMethod token s!"Private method '{token.text}' is never used"
            "Remove the method or call it" := by
  unfold methodIssues
  cases method.label.identifier with
  | none => rfl
  | some token =>
      dsimp only
      rw [Option.toList_some]
      by_cases used : (isCalled root token.text || root.references token.text) = true
      · rw [if_pos used, List.filter_cons_of_neg (by rw [used]; simp)]
        rfl
      · rw [if_neg used, List.filter_cons_of_pos (by simpa using used)]
        rfl

theorem methodIssues_reports (root : Node) :
    List.Forall₂ Reports ((privateMethods root).filter (·.Dead))
      ((privateOfKind root .methodDecl).flatMap (methodIssues root)) := by
  rw [privateOfKind_flatMap]
  apply reports_flatMap
  intro place _
  apply reports_ite
  intro _
  rw [methodIssues_eq]
  apply reports_tokens
  · intro token
    simp [Declaration.Dead, ← references_iff, ← isCalled_iff, and_comm]
  · intro token
    exact reports_dead (by simp [toString])

namespace Sample

def unusedLocal : Node :=
  .node { kind := .localDecl, declarators := [⟨"x", { startLine := 3, startColumn := 5 }⟩] } []

def body : Node := .node { kind := .block } [unusedLocal, .node { kind := .invocation "Log" 0 } []]

def method : Node :=
  .node
    { kind := .methodDecl
      modifiers := [.privateAccess]
      identifier := some ⟨"Run", {}⟩
      parameters := [⟨"_", {}⟩, ⟨"p", {}⟩] } [body]

def logging : Node :=
  .node { kind := .methodDecl, modifiers := [.privateAccess], identifier := some ⟨"Log", {}⟩ } []

def fields : Node :=
  .node
    { kind := .fieldDecl
      modifiers := [.privateAccess, .static]
      declarators := [⟨"used", {}⟩, ⟨"f", {}⟩] } []

def root : Node :=
  .node { kind := .compilationUnit }
    [fields, method, logging, Node.leaf .reference {} "x", Node.leaf .reference {} "used"]

end Sample

/-- The issues are the dead declarations: locals, parameters, private fields and private methods,
each in pre-order. The scope of a local is found among the nodes around its declaration. -/
theorem issues_are_dead_declarations (root : Node) :
    List.Forall₂ Reports ((declarations root).filter (·.Dead)) (issues root) ∧
    root.lineages.map (·.1) = root.descendants ∧
    ∀ lineage ∈ root.lineages,
      (lineage.1 :: (lineage.2 ++ [root])).IsChain fun inner outer => inner ∈ outer.children := by
  refine ⟨?_, Tree.map_fst_lineages root, fun _ => Tree.isChain_of_mem_lineages⟩
  simp only [declarations, List.filter_append]
  exact List.rel_append (List.rel_append (List.rel_append (localIssues_reports root)
    (parameterIssues_reports root)) (fieldIssues_reports root)) (methodIssues_reports root)

open Sample in
theorem issues_are_dead_declarations_mentioned :
    (unusedLocal, [body, method]) ∈ root.lineages ∧
    [unusedLocal, body, method, root].IsChain (fun inner outer => inner ∈ outer.children) ∧
    ((declarations root).filter (·.Dead)).map (fun dead => (dead.rule, dead.token.text)) =
      [(.unusedLocal, "x"), (.unusedParameter, "p"), (.unusedPrivateField, "f"),
       (.unusedPrivateMethod, "Run")] ∧
    (issues root).map (fun issue => (issue.rule, issue.description)) =
      [(.unusedLocal, "Local variable 'x' is never used"),
       (.unusedParameter, "Parameter 'p' of method 'Run' is never used"),
       (.unusedPrivateField, "Private field 'f' is never used"),
       (.unusedPrivateMethod, "Private method 'Run' is never used")] ∧
    List.Forall₂ Reports ((declarations root).filter (·.Dead)) (issues root) := by
  have listed : (unusedLocal, [body, method]) ∈ root.lineages :=
    .tail _ (.tail _ (.tail _ (.head _)))
  obtain ⟨reports, -, chains⟩ := issues_are_dead_declarations root
  exact ⟨listed, chains _ listed, by decide, by decide, reports⟩

end SharpLint.Check.Unused
