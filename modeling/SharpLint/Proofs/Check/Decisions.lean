import Mathlib.Algebra.BigOperators.Group.List.Basic
import Mathlib.Algebra.Ring.Nat
import SharpLint.Proofs.Check.Reports
import SharpLint.Proofs.Linter.Relaxation

/-!
# Decisions in a method

The complexity of a method is one more than its `decisions`, which are counted here kind by kind
along the structure of the body (`cyclomatic_eq`). A valid configuration has its two thresholds in
order, and then the verdict depends on the upper one only (`complexity_rates_decisions`).
-/

namespace SharpLint

namespace Tree

universe u

variable {α : Type u}

mutual

/-- The sum of what the labels of a tree weigh. -/
def total (weight : α → Nat) : Tree α → Nat
  | node label children => weight label + totalAll weight children

def totalAll (weight : α → Nat) : List (Tree α) → Nat
  | [] => 0
  | tree :: trees => total weight tree + totalAll weight trees

end

def totalBelow (weight : α → Nat) (tree : Tree α) : Nat := totalAll weight tree.children

theorem totalAll_eq_sum (weight : α → Nat) (trees : List (Tree α)) :
    totalAll weight trees = (trees.map (total weight)).sum := by
  induction trees with
  | nil => rfl
  | cons tree trees ih => rw [totalAll, ih, List.map_cons, List.sum_cons]

theorem total_eq_sum (weight : α → Nat) (tree : Tree α) :
    total weight tree = (tree.preorder.map (weight ·.label)).sum := by
  induction tree with
  | node label children ih =>
      rw [total, totalAll_eq_sum, preorder, List.map_cons, List.sum_cons, descendants_eq,
        List.map_flatMap, List.flatMap_def, List.sum_flatten, List.map_map]
      congr 2
      apply List.map_congr_left
      intro child isChild
      rw [Function.comp_apply, ih child isChild, preorder_eq]

theorem totalBelow_eq_sum (weight : α → Nat) (tree : Tree α) :
    totalBelow weight tree = (tree.descendants.map (weight ·.label)).sum := by
  have whole := total_eq_sum weight tree
  rw [preorder, List.map_cons, List.sum_cons] at whole
  cases tree with
  | node label children =>
      rw [total] at whole
      exact Nat.add_left_cancel whole

end Tree

namespace Check.Complexity

/-! ## Counting decisions -/

def branches : Kind → Nat
  | .ifStatement | .forStatement | .forEachStatement | .whileStatement | .doStatement => 1
  | _ => 0

def sections : Kind → Nat
  | .switchStatement sections => sections
  | _ => 0

def catches : Kind → Nat
  | .catchClause => 1
  | _ => 0

def conditionals : Kind → Nat
  | .conditional => 1
  | _ => 0

def shortCircuits : Kind → Nat
  | .binary operator => if operator = "&&" ∨ operator = "||" then 1 else 0
  | _ => 0

def countBelow (weight : Kind → Nat) (body : Node) : Nat :=
  body.totalBelow fun label => weight label.kind

/-- One, and one more for every decision below the body. -/
def decisions (body : Node) : Nat :=
  1 + countBelow branches body + countBelow sections body + countBelow catches body +
    countBelow conditionals body + countBelow shortCircuits body

theorem decisionPoints_eq (kind : Kind) :
    decisionPoints kind =
      branches kind + sections kind + catches kind + conditionals kind + shortCircuits kind := by
  cases kind with
  | binary operator => simp [decisionPoints, branches, sections, catches, conditionals,
      shortCircuits]
  | _ => simp [decisionPoints, branches, sections, catches, conditionals, shortCircuits]

theorem countBelow_add (weight other : Kind → Nat) (body : Node) :
    countBelow (fun kind => weight kind + other kind) body =
      countBelow weight body + countBelow other body := by
  simp only [countBelow, Tree.totalBelow_eq_sum, List.sum_map_add]

/-- The check counts in 64 bits. -/
theorem cyclomatic_eq (body : Node) : cyclomatic body = decisions body % 2 ^ 64 := by
  have sum (nodes : List Node) :
      nodes.foldr (fun node points => decisionPoints (Node.kind node) + points) 1 =
        1 + (nodes.map fun node => decisionPoints (Node.kind node)).sum := by
    induction nodes with
    | nil => rfl
    | cons node nodes ih =>
        rw [List.foldr_cons, ih, List.map_cons, List.sum_cons, Nat.add_left_comm]
  have counted : (body.descendants.map fun node => decisionPoints (Node.kind node)).sum =
      countBelow decisionPoints body :=
    (Tree.totalBelow_eq_sum (fun label => decisionPoints label.kind) body).symm
  rw [cyclomatic, sum, counted, funext decisionPoints_eq, countBelow_add, countBelow_add,
    countBelow_add, countBelow_add, decisions]
  simp only [← Nat.add_assoc]
  rfl

/-! ## Rating methods -/

/-- The issue is that on a method whose complexity is the number. -/
structure Rates (limits : ComplexityLimits) (method : Node) (number : Nat) (issue : Issue) :
    Prop where
  rule : issue.rule = .cyclomaticComplexity
  line : issue.line = method.anchor.startLine
  column : issue.column = method.anchor.startColumn
  snippet : issue.snippet = method.name
  failing_iff : issue.passed = false ↔ limits.maxComplexity < number
  described : ∃ level : Level,
    issue.description = s!"Method '{method.name}' has complexity {number} ({level.name})" ∧
    (level = .low ↔ number ≤ limits.lowThreshold) ∧
    (level = .high ↔ limits.maxComplexity < number)

/-- The issue rates the method by the decisions in its body, as long as 64 bits suffice. -/
def RatesDecisions (limits : ComplexityLimits) (method : Node) (issue : Issue) : Prop :=
  ∃ body number, method.body? = some body ∧ (decisions body < 2 ^ 64 → number = decisions body) ∧
    Rates limits method number issue

theorem classify_eq_low {limits : ComplexityLimits} {complexity : Nat} :
    classify limits complexity = .low ↔ complexity ≤ limits.lowThreshold := by
  unfold classify
  split
  · simp_all
  · split <;> simp_all

theorem classify_eq_high_of_ordered {limits : ComplexityLimits}
    (ordered : limits.lowThreshold ≤ limits.maxComplexity) {complexity : Nat} :
    classify limits complexity = .high ↔ limits.maxComplexity < complexity := by
  rw [classify_eq_high]
  omega

theorem methodIssue_rates {limits : ComplexityLimits}
    (ordered : limits.lowThreshold ≤ limits.maxComplexity) (method body : Node) :
    Rates limits method (cyclomatic body) (methodIssue limits method body) := by
  have failing_iff : (methodIssue limits method body).passed = false ↔
      limits.maxComplexity < cyclomatic body := by
    rw [← classify_eq_high_of_ordered ordered, ← Bool.not_eq_true, methodIssue_passed, not_not]
  refine ⟨?rule, ?line, ?column, ?snippet, failing_iff, classify limits (cyclomatic body),
    ?described, classify_eq_low, classify_eq_high_of_ordered ordered⟩
  -- A failure differs from the note in its suggestion only.
  all_goals
    unfold methodIssue
    dsimp only
    split
    · rfl
    · rfl

/-- Under a valid configuration each method with a body gets one issue, which rates it by the
decisions in the body; it fails above the upper threshold, and the level is low up to the lower one.
-/
theorem complexity_rates_decisions {config : Config} (valid : config.validate = .ok config)
    (root : Node) :
    List.Forall₂ (RatesDecisions config.complexity)
      (root.methods.filter fun method => (Node.body? method).isSome)
      (issues config.complexity root) := by
  apply forall₂_filterMap
  · intro method _ hasBody
    obtain ⟨body, found⟩ := Option.isSome_iff_exists.mp hasBody
    refine ⟨_, by rw [found, Option.map_some], body, _, found, ?_, methodIssue_rates
      (Config.lowThreshold_le_of_validate valid) method body⟩
    intro small
    rw [cyclomatic_eq, Nat.mod_eq_of_lt small]
  · intro method _ noBody
    rw [Option.isSome_eq_false_iff, Option.isNone_iff_eq_none] at noBody
    rw [noBody, Option.map_none]

namespace Sample

def inner : Node :=
  .node { kind := .methodDecl, identifier := some ⟨"Inner", {}⟩ }
    [.node { kind := .expressionBody }
      [.node { kind := .conditional } [.node { kind := .binary "||" } []]]]

def outer : Node :=
  .node { kind := .methodDecl, identifier := some ⟨"Outer", {}⟩ }
    [.node { kind := .block }
      [.node { kind := .switchStatement 8 } [], .node { kind := .whileStatement } [inner]]]

def abstracted : Node := .node { kind := .methodDecl, identifier := some ⟨"Abstract", {}⟩ } []

def unit : Node := .node { kind := .compilationUnit } [abstracted, outer]

end Sample

open Complexity.Sample in
theorem complexity_rates_decisions_nested :
    ({} : Config).validate = .ok {} ∧ List.Forall₂ (RatesDecisions {}) [outer, inner]
      (issues {} unit) ∧
    (outer.body?.map decisions, inner.body?.map decisions) = (some 12, some 3) := by
  have valid : ({} : Config).validate = .ok {} := by decide
  have withBody : (unit.methods.filter fun method => (Node.body? method).isSome) =
      [outer, inner] := rfl
  exact ⟨valid, withBody ▸ complexity_rates_decisions valid unit, by decide⟩

end Check.Complexity

end SharpLint
