import SharpLint.Proofs.Check.Unplaced

/-!
# Findings do not depend on positions

Two syntax trees that differ in their spans only are two views of one tree of pairs of labels. A
rethrow is then a subtree of that tree, whichever view it is found in, and the two views tell
rethrows apart in the same way (`distinctBy_congr`) because no two throw statements of a view start
at the same byte.
-/

namespace SharpLint

namespace Check.Exceptions

variable {α : Type} {view other : α → Node.Label}

def rethrowsIn (view : α → Node.Label) (clause : Tree α) : List (String × Tree α) :=
  match (view clause.label).identifier.map (·.text),
    clause.children.find? fun child => Node.isBlock (child.map view) with
  | some caught, some block =>
    (block.descendants.filter fun node => throwsVariable caught (node.map view)).map (caught, ·)
  | _, _ => []

def allRethrowsIn (view : α → Node.Label) (root : Tree α) : List (String × Tree α) :=
  (root.descendants.filter fun node => Node.kind (node.map view) = .catchClause).flatMap
    (rethrowsIn view)

theorem rethrows_map (view : α → Node.Label) (clause : Tree α) :
    rethrows (clause.map view) =
      (rethrowsIn view clause).map fun (caught, statement) => (caught, statement.map view) := by
  rw [rethrows, rethrowsIn, Tree.label_map, Node.block?, Tree.children_map, List.find?_map]
  cases (view clause.label).identifier with
  | none => rfl
  | some caught =>
      simp only [Function.comp_def, Option.map_some]
      cases clause.children.find? fun child => Node.isBlock (child.map view) with
      | none => rfl
      | some block =>
          dsimp only [Option.map_some]
          rw [Tree.descendants_map, List.filter_map, List.map_map, List.map_map]
          rfl

theorem flatMap_rethrows_map (view : α → Node.Label) (root : Tree α) :
    ((root.map view).descendants.filter fun node => Node.kind node = .catchClause).flatMap
        rethrows =
      (allRethrowsIn view root).map fun (caught, statement) => (caught, statement.map view) := by
  rw [Tree.descendants_map, List.filter_map, List.flatMap_map, allRethrowsIn, List.map_flatMap]
  exact List.flatMap_congr fun clause _ => rethrows_map view clause

/-! ## Two views -/

theorem unplaced_map (same : ∀ label, (view label).unplaced = (other label).unplaced)
    (tree : Tree α) : Node.unplaced (tree.map view) = Node.unplaced (tree.map other) := by
  rw [Node.unplaced, Node.unplaced, Tree.map_map, Tree.map_map]
  congr 1
  exact funext same

theorem rethrowsIn_congr (same : ∀ label, (view label).unplaced = (other label).unplaced)
    (clause : Tree α) : rethrowsIn view clause = rethrowsIn other clause := by
  have caught : (view clause.label).identifier.map (·.text) =
      (other clause.label).identifier.map (·.text) := by
    have names := congrArg (·.identifier.map (·.text)) (same clause.label)
    simpa [Node.Label.unplaced, Function.comp_def] using names
  have blocks (child : Tree α) :
      Node.isBlock (child.map view) = Node.isBlock (child.map other) := by
    rw [← Node.isBlock_unplaced, unplaced_map same, Node.isBlock_unplaced]
  have throws (name : String) (node : Tree α) :
      throwsVariable name (node.map view) = throwsVariable name (node.map other) := by
    rw [← throwsVariable_unplaced, unplaced_map same, throwsVariable_unplaced]
  simp only [rethrowsIn, caught, blocks, throws]

theorem allRethrowsIn_congr (same : ∀ label, (view label).unplaced = (other label).unplaced)
    (root : Tree α) : allRethrowsIn view root = allRethrowsIn other root := by
  have kinds (node : Tree α) : Node.kind (node.map view) = Node.kind (node.map other) := by
    rw [← Node.kind_unplaced, unplaced_map same, Node.kind_unplaced]
  simp only [allRethrowsIn, kinds, funext (rethrowsIn_congr same)]

theorem kind_of_throwsVariable {caught : String} {statement : Node}
    (throws : throwsVariable caught statement = true) : statement.kind = .throwStatement := by
  rw [throwsVariable, Bool.and_eq_true, decide_eq_true_eq] at throws
  exact throws.1

theorem mem_allRethrowsIn {root : Tree α} {rethrow : String × Tree α}
    (member : rethrow ∈ allRethrowsIn view root) :
    rethrow.2 ∈ root.descendants ∧ Node.kind (rethrow.2.map view) = .throwStatement := by
  obtain ⟨clause, isClause, member⟩ := List.mem_flatMap.mp member
  have below := Tree.mem_descendants.mp (List.mem_filter.mp isClause).1
  rw [rethrowsIn] at member
  split at member
  · rename_i caught block _ found
    obtain ⟨statement, thrown, rfl⟩ := List.mem_map.mp member
    obtain ⟨inside, throws⟩ := List.mem_filter.mp thrown
    have lower := (Tree.mem_descendants.mp inside).trans (.child (List.mem_of_find?_eq_some found))
    exact ⟨Tree.mem_descendants.mpr (lower.trans below), kind_of_throwsVariable throws⟩
  · cases member

/-! ## Telling rethrows apart -/

theorem distinctBy_map {α β : Type} (f : α → β) (key : β → Nat) (seen : List Nat)
    (members : List α) :
    distinctBy key seen (members.map f) =
      (distinctBy (fun member => key (f member)) seen members).map f := by
  induction members generalizing seen with
  | nil => rfl
  | cons member members ih =>
      rw [List.map_cons, distinctBy, distinctBy]
      split
      · exact ih _
      · rw [List.map_cons, ih]

theorem distinctBy_congr {α : Type} {key otherKey : α → Nat} (met members : List α)
    (same : ∀ first ∈ met ++ members, ∀ second ∈ met ++ members,
      key first = key second ↔ otherKey first = otherKey second) :
    distinctBy key (met.map key) members = distinctBy otherKey (met.map otherKey) members := by
  induction members generalizing met with
  | nil => rfl
  | cons member members ih =>
      have seen : key member ∈ met.map key ↔ otherKey member ∈ met.map otherKey := by
        simp only [List.mem_map]
        refine exists_congr fun earlier => and_congr_right fun present => ?_
        exact same earlier (List.mem_append_left _ present) member (by simp)
      rw [distinctBy, distinctBy]
      by_cases known : key member ∈ met.map key
      · rw [if_pos known, if_pos (seen.mp known)]
        apply ih
        intro first _ second _
        exact same first (by grind) second (by grind)
      · rw [if_neg known, if_neg (mt seen.mpr known)]
        congr 1
        apply ih (member :: met)
        intro first _ second _
        exact same first (by grind) second (by grind)

/-- No two throw statements below the root start at the same byte. -/
def DistinctThrows (root : Node) : Prop :=
  ((root.descendants.filter fun node => Node.kind node = .throwStatement).map
    fun node => (Node.span node).startByte).Nodup

instance (root : Node) : Decidable (DistinctThrows root) :=
  inferInstanceAs (Decidable (_ : List Nat).Nodup)

theorem eq_of_startByte_eq {root : Tree α} (distinct : DistinctThrows (root.map view))
    {first second : String × Tree α} (member : first ∈ allRethrowsIn view root)
    (alsoMember : second ∈ allRethrowsIn view root)
    (same : (Node.span (first.2.map view)).startByte = (Node.span (second.2.map view)).startByte) :
    first.2 = second.2 := by
  rw [DistinctThrows, Tree.descendants_map, List.filter_map, List.map_map] at distinct
  refine List.inj_on_of_nodup_map distinct ?_ ?_ same
  · obtain ⟨below, thrown⟩ := mem_allRethrowsIn member
    exact List.mem_filter.mpr ⟨below, by simpa using thrown⟩
  · obtain ⟨below, thrown⟩ := mem_allRethrowsIn alsoMember
    exact List.mem_filter.mpr ⟨below, by simpa using thrown⟩

theorem rethrowIssues_map (view : α → Node.Label) (root : Tree α) :
    rethrowIssues ((root.map view).descendants.filter fun node => Node.kind node = .catchClause) =
      (distinctBy (fun rethrow => (Node.span (rethrow.2.map view)).startByte) []
        (allRethrowsIn view root)).map fun rethrow =>
          rethrowIssue rethrow.1 (rethrow.2.map view) := by
  rw [rethrowIssues, flatMap_rethrows_map, distinctBy_map, List.map_map]
  rfl

theorem rethrowIssues_of_views (same : ∀ label, (view label).unplaced = (other label).unplaced)
    {root : Tree α} (distinct : DistinctThrows (root.map view))
    (alsoDistinct : DistinctThrows (root.map other)) :
    SameIssues
      (rethrowIssues ((root.map view).descendants.filter fun node =>
        Node.kind node = .catchClause))
      (rethrowIssues ((root.map other).descendants.filter fun node =>
        Node.kind node = .catchClause)) := by
  let start (view : α → Node.Label) (rethrow : String × Tree α) : Nat :=
    (Node.span (rethrow.2.map view)).startByte
  have rethrows := allRethrowsIn_congr same root
  have apart : ∀ first ∈ allRethrowsIn view root, ∀ second ∈ allRethrowsIn view root,
      start view first = start view second ↔ start other first = start other second := by
    intro first member second alsoMember
    constructor
    · intro sameStart
      have statement := eq_of_startByte_eq distinct member alsoMember sameStart
      simp only [start, statement]
    · intro sameStart
      rw [rethrows] at member alsoMember
      have statement := eq_of_startByte_eq alsoDistinct member alsoMember sameStart
      simp only [start, statement]
  have kept : distinctBy (start view) [] (allRethrowsIn view root) =
      distinctBy (start other) [] (allRethrowsIn view root) := distinctBy_congr [] _ apart
  rw [rethrowIssues_map, rethrowIssues_map, ← rethrows, kept, SameIssues, List.map_map,
    List.map_map]
  apply List.map_congr_left
  intro rethrow _
  have shown : Node.canonicalForm (rethrow.2.map view) =
      Node.canonicalForm (rethrow.2.map other) := by
    rw [← Node.canonicalForm_unplaced, unplaced_map same, Node.canonicalForm_unplaced]
  simp only [Function.comp_apply, rethrowIssue, shown]
  rfl

theorem issues_of_distinctThrows {tree other : Node} (same : tree.unplaced = other.unplaced)
    (distinct : DistinctThrows tree) (alsoDistinct : DistinctThrows other) :
    SameIssues (issues tree) (issues other) := by
  obtain ⟨twins, rfl, rfl⟩ := Tree.exists_twins same
  refine .append (.append ?_ ?_) ?_
  · exact .of_unplaced caughtIssues_unplaced same
  · exact rethrowIssues_of_views (fun label => label.alike) distinct alsoDistinct
  · exact .of_unplaced blockingIssues_unplaced same

end Check.Exceptions

/-- The issues agree in all but their places and their summaries, which mention the places. -/
structure Issue.Agrees (issue other : Issue) : Prop where
  rule : issue.rule = other.rule
  description : issue.description = other.description
  passed : issue.passed = other.passed
  suggestion : issue.suggestion = other.suggestion
  snippet : issue.snippet = other.snippet
  category : issue.category = other.category

def Analyzer.report (analyzer : Analyzer) (root : Node) : List Issue :=
  Category.stamp analyzer.category (analyzer.inspect root).issues

theorem SameIssues.agrees {issues others : List Issue} (same : SameIssues issues others)
    (name : String) :
    List.Forall₂ Issue.Agrees (Category.stamp name issues) (Category.stamp name others) := by
  rw [Category.stamp, Category.stamp, List.forall₂_map_left_iff, List.forall₂_map_right_iff]
  have unplaced : List.Forall₂ (fun issue other : Issue => issue.unplaced = other.unplaced)
      issues others := by
    rw [SameIssues, ← List.forall₂_eq_eq_eq, List.forall₂_map_left_iff,
      List.forall₂_map_right_iff] at same
    exact same
  refine unplaced.imp ?_
  intro issue other equal
  simp only [Issue.unplaced, Issue.mk.injEq] at equal
  obtain ⟨rule, description, passed, suggestion, snippet, -, -, -, -⟩ := equal
  exact ⟨rule, description, passed, suggestion, snippet, rfl⟩

namespace Sample

def rethrowing (start : Nat) : Node :=
  .node { kind := .compilationUnit }
    [.node { kind := .catchClause, identifier := some ⟨"e", { startByte := start }⟩ }
      [.node { kind := .block }
        [.node { kind := .catchClause, identifier := some ⟨"e", {}⟩ }
          [.node { kind := .block }
            [.node { kind := .throwStatement, span := { startByte := start, startLine := start } }
              [Node.leaf .reference {} "e"]]],
         .node { kind := .throwStatement, span := { startByte := 2 * start } }
            [Node.leaf .reference {} "e"]]]]

end Sample

open Check.Exceptions (DistinctThrows)

/-- Apart from the sizes of methods, which are counted in lines, what the built-in analyzers report
does not depend on where things stand. Rethrows have to start at different places. -/
theorem findings_independent_of_places (config : Config) (tree other : Node)
    (same : tree.unplaced = other.unplaced) :
    ∀ analyzer ∈ Analyzer.builtin config, analyzer.name ≠ "size" →
      (analyzer.name = "exceptions" → DistinctThrows tree ∧ DistinctThrows other) →
      List.Forall₂ Issue.Agrees (analyzer.report tree) (analyzer.report other) := by
  intro analyzer member noSize distinct
  apply SameIssues.agrees
  simp only [Analyzer.builtin, List.mem_cons, List.not_mem_nil, or_false] at member
  rcases member with rfl | rfl | rfl | rfl | rfl | rfl | rfl
  · exact .of_unplaced (Check.Naming.issues_unplaced _) same
  · exact .of_unplaced (Check.Complexity.issues_unplaced _) same
  · exact .of_unplaced Check.Documentation.issues_unplaced same
  · exact .of_unplaced (Check.Duplication.issues_unplaced _) same
  · exact .of_unplaced Check.Unused.issues_unplaced same
  · exact absurd rfl noSize
  · obtain ⟨first, second⟩ := distinct rfl
    exact Check.Exceptions.issues_of_distinctThrows same first second

theorem findings_independent_of_places_rethrowing :
    (Sample.rethrowing 3).unplaced = (Sample.rethrowing 7).unplaced ∧
    DistinctThrows (Sample.rethrowing 3) ∧ DistinctThrows (Sample.rethrowing 7) ∧
    Analyzer.ofCheck "exceptions" "Exceptions" Check.Exceptions.issues ∈ Analyzer.builtin {} ∧
    List.Forall₂ Issue.Agrees
      (Category.stamp "Exceptions" (Check.Exceptions.issues (Sample.rethrowing 3)))
      (Category.stamp "Exceptions" (Check.Exceptions.issues (Sample.rethrowing 7))) := by
  have same : (Sample.rethrowing 3).unplaced = (Sample.rethrowing 7).unplaced := rfl
  have first : DistinctThrows (Sample.rethrowing 3) := by decide
  have second : DistinctThrows (Sample.rethrowing 7) := by decide
  have builtin : Analyzer.ofCheck "exceptions" "Exceptions" Check.Exceptions.issues ∈
      Analyzer.builtin {} := by simp [Analyzer.builtin]
  exact ⟨same, first, second, builtin,
    findings_independent_of_places {} _ _ same _ builtin (by decide) fun _ => ⟨first, second⟩⟩

end SharpLint
