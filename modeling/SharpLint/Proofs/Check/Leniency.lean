import SharpLint.Linter
import SharpLint.Proofs.Check.Clusters

/-!
# Checks under wider limits

Each check that reads the configuration finds no more failures when it is told to be more lenient
(`Lenient`): with more keywords, with higher limits, or with fewer blocks to compare. Names, methods
and their sizes are judged one by one. Blocks are not, since one that is no longer compared breaks
up its cluster: they are counted as a whole.
-/

namespace SharpLint

/-- No more of the issues fail than of the stricter ones. -/
def Lenient (issues stricter : List Issue) : Prop :=
  issues.countP (!·.passed) ≤ stricter.countP (!·.passed)

namespace Lenient

theorem refl (issues : List Issue) : Lenient issues issues := Nat.le_refl _

theorem nil (stricter : List Issue) : Lenient [] stricter := Nat.zero_le _

theorem singleton {issue stricter : Issue}
    (passes : stricter.passed = true → issue.passed = true) : Lenient [issue] [stricter] := by
  cases verdict : stricter.passed with
  | true =>
      have none : [issue].countP (!·.passed) = 0 := by simp [passes verdict]
      rw [Lenient, none]
      exact Nat.zero_le _
  | false =>
      have one : [stricter].countP (!·.passed) = 1 := by simp [verdict]
      rw [Lenient, one]
      exact List.countP_le_length

theorem append {issues stricter more moreStricter : List Issue} (lenient : Lenient issues stricter)
    (alsoLenient : Lenient more moreStricter) :
    Lenient (issues ++ more) (stricter ++ moreStricter) := by
  rw [Lenient, List.countP_append, List.countP_append]
  exact Nat.add_le_add lenient alsoLenient

theorem flatMap {α : Type} {places : List α} {reported stricter : α → List Issue}
    (lenient : ∀ place, Lenient (reported place) (stricter place)) :
    Lenient (places.flatMap reported) (places.flatMap stricter) := by
  induction places with
  | nil => exact refl []
  | cons place places ih =>
      rw [List.flatMap_cons, List.flatMap_cons]
      exact append (lenient place) ih

theorem filterMap {α : Type} {places : List α} {reported stricter : α → Option Issue}
    (lenient : ∀ place, Lenient (reported place).toList (stricter place).toList) :
    Lenient (places.filterMap reported) (places.filterMap stricter) := by
  rw [List.filterMap_eq_flatMap_toList, List.filterMap_eq_flatMap_toList]
  exact flatMap lenient

theorem ifBroken {broken strictlyBroken : Prop} [Decidable broken] [Decidable strictlyBroken]
    {issues stricter : List Issue} (narrowed : broken → strictlyBroken)
    (lenient : Lenient issues stricter) :
    Lenient (if broken then issues else []) (if strictlyBroken then stricter else []) := by
  by_cases holds : broken
  · rw [if_pos holds, if_pos (narrowed holds)]
    exact lenient
  · rw [if_neg holds]
    exact nil _

theorem unlessExempt {exempt strictlyExempt : Prop} [Decidable exempt] [Decidable strictlyExempt]
    (widened : strictlyExempt → exempt) (issues : List Issue) :
    Lenient (if exempt then [] else issues) (if strictlyExempt then [] else issues) := by
  rw [← ite_not, ← ite_not (α := List Issue) strictlyExempt]
  exact ifBroken (mt widened) (refl issues)

end Lenient

namespace Names.KeywordTable

def Extends (table narrower : KeywordTable) : Prop :=
  ∀ name, narrower.contains name = true → table.contains name = true

theorem extends_ofNames {names narrower : List String}
    (included : narrower.map Text.lowercase ⊆ names.map Text.lowercase) :
    Extends (ofNames names) (ofNames narrower) := by
  intro name keyword
  rw [contains, Bool.or_eq_true, decide_eq_true_eq] at keyword ⊢
  exact keyword.imp_right fun extra => decide_eq_true (included (of_decide_eq_true extra))

theorem Extends.exempts {table narrower : KeywordTable} (extends_ : Extends table narrower)
    {name : String} {fine : Bool} (exempt : (narrower.contains name || fine) = true) :
    (table.contains name || fine) = true := by
  rw [Bool.or_eq_true] at exempt ⊢
  exact exempt.imp_left (extends_ name)

end Names.KeywordTable

namespace Check

/-! ## Names -/

namespace Naming

open Names

variable {keywords narrower : KeywordTable} (wider : keywords.Extends narrower)
include wider

theorem typeIssues_lenient (node : Node) :
    Lenient (typeIssues keywords node) (typeIssues narrower node) := by
  unfold typeIssues
  cases node.label.identifier with
  | none => exact .refl []
  | some token => exact .unlessExempt wider.exempts _

theorem methodNameIssues_lenient (node : Node) :
    Lenient (methodNameIssues keywords node) (methodNameIssues narrower node) := by
  unfold methodNameIssues
  cases node.label.identifier with
  | none => exact .refl []
  | some token => exact .append (.unlessExempt wider.exempts _) (.refl _)

theorem parameterIssues_lenient (parameter : Token) :
    Lenient (parameterIssues keywords parameter) (parameterIssues narrower parameter) := by
  unfold parameterIssues
  dsimp only
  split
  · exact .refl _
  · exact .unlessExempt wider.exempts _

theorem placeholderIssues_lenient (node : Node) :
    Lenient (placeholderIssues keywords node) (placeholderIssues narrower node) := by
  unfold placeholderIssues
  cases node.body? with
  | none => exact .refl []
  | some body =>
      apply Lenient.filterMap
      rintro ⟨parameter, index⟩
      rw [apply_ite Option.toList, apply_ite Option.toList]
      refine .unlessExempt ?_ _
      simp only [Bool.or_eq_true]
      exact Or.imp_left (Or.imp_right (wider _))

theorem methodIssues_lenient (node : Node) :
    Lenient (methodIssues keywords node) (methodIssues narrower node) :=
  .append
    (.append (methodNameIssues_lenient wider node) (.flatMap (parameterIssues_lenient wider)))
    (placeholderIssues_lenient wider node)

theorem fieldNameIssues_lenient (isPrivate : Bool) (token : Token) :
    Lenient (fieldNameIssues keywords isPrivate token)
      (fieldNameIssues narrower isPrivate token) := by
  refine .append (.refl _) ?_
  split
  · exact .unlessExempt wider.exempts _
  · exact .refl []

theorem issues_lenient (root : Node) : Lenient (issues keywords root) (issues narrower root) := by
  apply Lenient.flatMap
  intro node
  unfold nodeIssues
  split
  · exact typeIssues_lenient wider node
  · exact typeIssues_lenient wider node
  · exact methodIssues_lenient wider node
  · exact .flatMap (fieldNameIssues_lenient wider node.isPrivate)
  · exact .refl []

end Naming

/-! ## Complexity -/

namespace Complexity

theorem methodIssue_passed {limits : ComplexityLimits} {method body : Node} :
    (methodIssue limits method body).passed = true ↔
      classify limits (cyclomatic body) ≠ .high := by
  rw [methodIssue]
  split
  · rename_i high
    simp [high, Issue.failing]
  · rename_i fine
    simp [fine, Issue.note]

theorem classify_eq_high {limits : ComplexityLimits} {complexity : Nat} :
    classify limits complexity = .high ↔
      limits.lowThreshold < complexity ∧ limits.maxComplexity < complexity := by
  unfold classify
  split
  · simp; omega
  · split
    · simp; omega
    · simp; omega

theorem issues_lenient {limits stricter : ComplexityLimits}
    (ordered : stricter.lowThreshold ≤ stricter.maxComplexity)
    (higher : stricter.maxComplexity ≤ limits.maxComplexity) (root : Node) :
    Lenient (issues limits root) (issues stricter root) := by
  apply Lenient.filterMap
  intro method
  cases method.body? with
  | none => exact .refl []
  | some body =>
      -- A threshold above the maximum would let methods pass that exceed the maximum.
      refine .singleton fun passed => ?_
      rw [methodIssue_passed, ne_eq, classify_eq_high] at passed ⊢
      omega

end Complexity

/-! ## Size -/

namespace Size

theorem issues_lenient {limits stricter : SizeLimits} (longer : stricter.maxLines ≤ limits.maxLines)
    (more : stricter.maxParameters ≤ limits.maxParameters) (root : Node) :
    Lenient (issues limits root) (issues stricter root) := by
  apply Lenient.flatMap
  intro method
  exact .append (.ifBroken (Nat.lt_of_le_of_lt longer) (Nat.le_refl _))
    (.ifBroken (Nat.lt_of_le_of_lt more) (Nat.le_refl _))

end Size

/-! ## Blocks -/

namespace Duplication

theorem Repeats.of_le {root : Node} {minStatements fewer : Nat} (lower : fewer ≤ minStatements)
    {member : Node × Nat} (repeats : Repeats root minStatements member) :
    Repeats root fewer member := by
  have compares {member : Node × Nat} (compared : Compares root minStatements member) :
      Compares root fewer member :=
    ⟨compared.below, compared.found, compared.block, Nat.le_trans lower compared.large⟩
  obtain ⟨compared, other, alsoCompared, different, same⟩ := repeats
  exact ⟨compares compared, other, compares alsoCompared, different, same⟩

theorem countP_issues (limits : DuplicationLimits) (root : Node) :
    (issues limits root).countP (!·.passed) =
      (clusters root limits.minStatements).flatten.length := by
  have each (members : List (Node × Nat)) :
      (clusterIssues limits members).countP (!·.passed) = members.length := by
    rw [clusterIssues, List.countP_map]
    exact List.countP_eq_length.mpr fun _ _ => rfl
  rw [issues, List.countP_flatMap, List.length_flatten]
  congr 1
  apply List.map_congr_left
  intro members _
  exact each members

theorem issues_lenient {limits stricter : DuplicationLimits}
    (fewer : stricter.minStatements ≤ limits.minStatements) (root : Node) :
    Lenient (issues limits root) (issues stricter root) := by
  rw [Lenient, countP_issues, countP_issues]
  -- Clusters may shrink or vanish, but a block that is still repeated was repeated before.
  refine (List.subperm_of_subset (nodup_flatten_clusters root limits.minStatements) ?_).length_le
  intro member listed
  exact mem_flatten_clusters.mpr ((mem_flatten_clusters.mp listed).of_le fewer)

end Duplication

end Check

end SharpLint
