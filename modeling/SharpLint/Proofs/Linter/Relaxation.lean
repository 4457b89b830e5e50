import Mathlib.Data.List.Forall2
import SharpLint.Config.Validation
import SharpLint.Proofs.Check.Leniency
import SharpLint.Proofs.Linter.Builtin

/-!
# Relaxed configurations

A configuration that allows more and disables more analyzers adds no failure, neither to a category
nor in total (`relaxing_adds_no_failure`). The built-in analyzers under the two configurations
go together one by one (`builtin_relaxes`), so the argument is by induction on their lists.
-/

namespace SharpLint

/-- The configuration allows everything that the stricter one allows. The threshold of simple
methods, the length of previews, excluded paths and the way analyzers run may be anything. -/
structure Config.Relaxes (config stricter : Config) : Prop where
  allowPartial : config.allowPartial = stricter.allowPartial
  complexity : stricter.complexity.maxComplexity ≤ config.complexity.maxComplexity
  lines : stricter.size.maxLines ≤ config.size.maxLines
  parameters : stricter.size.maxParameters ≤ config.size.maxParameters
  statements : stricter.duplication.minStatements ≤ config.duplication.minStatements
  keywords : stricter.extraKeywords.map Text.lowercase ⊆ config.extraKeywords.map Text.lowercase
  disabled : stricter.disabledAnalyzers ⊆ config.disabledAnalyzers

def Findings.failedUnder (findings : Findings) (name : String) : Nat :=
  ((findings.category? name).map (·.failedCount)).getD 0

/-- The analyzer stands for the stricter one, and no more of its issues fail. -/
structure Analyzer.Relaxes (root : Node) (analyzer stricter : Analyzer) : Prop where
  name : analyzer.name = stricter.name
  category : (analyzer.contribution root).category = (stricter.contribution root).category
  lenient : Lenient (analyzer.contribution root).issues (stricter.contribution root).issues

variable {config stricter : Config}

namespace Config

theorem lowThreshold_le_of_validate (valid : config.validate = .ok config) :
    config.complexity.lowThreshold ≤ config.complexity.maxComplexity := by
  by_contra exceeds
  rw [Nat.not_le] at exceeds
  unfold validate error? at valid
  cases zero : config.limits.find? (·.2 = 0) with
  | some limit => simp [zero] at valid
  | none => simp [zero, exceeds] at valid

theorem Relaxes.isEnabled (relaxes : config.Relaxes stricter) (name : String)
    (enabled : config.isEnabled name = true) : stricter.isEnabled name = true := by
  rw [Config.isEnabled, decide_eq_true_eq] at enabled ⊢
  exact fun disabled => enabled (relaxes.disabled disabled)

end Config

open Contribution

/-! ## Analyzers one by one -/

theorem Analyzer.Relaxes.ofCheck {root : Node} (name category : String)
    {issues stricter : Node → List Issue} (lenient : Lenient (issues root) (stricter root)) :
    Relaxes root (ofCheck name category issues) (ofCheck name category stricter) :=
  ⟨rfl, rfl, lenient⟩

theorem Analyzer.builtin_relaxes (relaxes : config.Relaxes stricter)
    (valid : stricter.validate = .ok stricter) (root : Node) :
    List.Forall₂ (Relaxes root) (builtin config) (builtin stricter) := by
  have keywords := Names.KeywordTable.extends_ofNames relaxes.keywords
  have ordered := Config.lowThreshold_le_of_validate valid
  unfold builtin
  refine .cons (.ofCheck _ _ ?naming) (.cons (.ofCheck _ _ ?complexity)
    (.cons (.ofCheck _ _ ?documentation) (.cons (.ofCheck _ _ ?duplication)
      (.cons (.ofCheck _ _ ?unused) (.cons (.ofCheck _ _ ?size)
        (.cons (.ofCheck _ _ ?exceptions) .nil))))))
  case naming => exact Check.Naming.issues_lenient keywords root
  case complexity => exact Check.Complexity.issues_lenient ordered relaxes.complexity root
  case documentation => exact .refl _
  case duplication => exact Check.Duplication.issues_lenient relaxes.statements root
  case unused => exact .refl _
  case size => exact Check.Size.issues_lenient relaxes.lines relaxes.parameters root
  case exceptions => exact .refl _

/-! ## All of them together -/

def Analyzer.issuesKept (root : Node) (enabled keep : String → Bool) (analyzers : List Analyzer) :
    List Issue :=
  (((analyzers.filter (enabled ·.name)).map (·.contribution root)).filter
    (keep ·.category)).flatMap (·.issues)

namespace Analyzer

theorem issuesKept_cons (root : Node) (enabled keep : String → Bool) (analyzer : Analyzer)
    (analyzers : List Analyzer) :
    issuesKept root enabled keep (analyzer :: analyzers) =
      (if enabled analyzer.name = true ∧ keep (analyzer.contribution root).category = true then
        (analyzer.contribution root).issues else []) ++
      issuesKept root enabled keep analyzers := by
  by_cases runs : enabled analyzer.name = true
  · by_cases kept : keep (analyzer.contribution root).category = true
    · simp [issuesKept, runs, kept]
    · simp [issuesKept, runs, kept]
  · simp [issuesKept, runs]

theorem issuesKept_lenient {root : Node} {analyzers strict : List Analyzer}
    (each : List.Forall₂ (Relaxes root) analyzers strict) {enabled strictlyEnabled : String → Bool}
    (fewer : ∀ name, enabled name = true → strictlyEnabled name = true) (keep : String → Bool) :
    Lenient (issuesKept root enabled keep analyzers)
      (issuesKept root strictlyEnabled keep strict) := by
  induction each with
  | nil => exact .refl []
  | cons relaxes _ ih =>
      rw [issuesKept_cons, issuesKept_cons, relaxes.name, relaxes.category]
      exact .append (.ifBroken (And.imp_left (fewer _)) relaxes.lenient) ih

end Analyzer

theorem Findings.failedUnder_ofContributions (fileName name : String)
    (contributions : List Contribution) :
    (ofContributions fileName contributions).failedUnder name =
      (issuesUnder name contributions).countP (!·.passed) := by
  rw [failedUnder, category?_ofContributions]
  split
  · simp only [Option.map_some, Option.getD_some, Category.failedCount, Category.ofIssues,
      Category.stamp, List.countP_map]
    rfl
  · rename_i absent
    rw [issuesUnder_of_notMem absent]
    rfl

namespace Linter

/-- A relaxed configuration adds no failure to any category, and none in total. Of the stricter one
it matters that its thresholds are in order. -/
theorem relaxing_adds_no_failure (config stricter : Config) (document : Document)
    (fileName : String) (valid : stricter.validate = .ok stricter)
    (relaxes : config.Relaxes stricter) :
    (∀ name, (findings config document fileName).failedUnder name ≤
      (findings stricter document fileName).failedUnder name) ∧
    (findings config document fileName).failedCount ≤
      (findings stricter document fileName).failedCount := by
  cases blank : Text.allBlank document.source.text with
  | true =>
      rw [findings_of_blank blank, findings_of_blank blank]
      exact ⟨fun _ => Nat.le_refl _, Nat.le_refl _⟩
  | false =>
      cases parsed : document.parse stricter.allowPartial with
      | error error =>
          -- Both refuse partial trees or both take them, so they fail alike.
          rw [findings_of_error blank parsed,
            findings_of_error blank (relaxes.allowPartial ▸ parsed)]
          exact ⟨fun _ => Nat.le_refl _, Nat.le_refl _⟩
      | ok root =>
          have lenient := Analyzer.issuesKept_lenient
            (Analyzer.builtin_relaxes relaxes valid root) relaxes.isEnabled
          rw [findings_of_parse blank parsed,
            findings_of_parse blank (relaxes.allowPartial ▸ parsed)]
          constructor
          · intro name
            rw [Findings.failedUnder_ofContributions, Findings.failedUnder_ofContributions]
            exact lenient (· = name)
          · have total := lenient fun _ => true
            simp only [Analyzer.issuesKept, List.filter_true] at total
            rw [Findings.failedCount_ofContributions, Findings.failedCount_ofContributions]
            exact total

namespace Sample

def strict : Config :=
  { extraKeywords := ["Task"], disabledAnalyzers := ["size"], excludedPaths := ["bin/**"] }

def relaxed : Config :=
  { parallel := false
    complexity := { maxComplexity := 12, lowThreshold := 1 }
    duplication := { minStatements := 2, previewCharacters := 80 }
    extraKeywords := ["I", "TASK"]
    disabledAnalyzers := ["size", "documentation"] }

def interface : Document where
  source := { text := "interface i\x7b\x7d" }
  tree := some <|
    .node { kind := "compilation_unit", named := true, start := 0, stop := 13 }
      [.node { kind := "interface_declaration", named := true, start := 0, stop := 13 }
        [.node { kind := "interface", named := false, start := 0, stop := 9 } [],
         .node { kind := "identifier", named := true, field := some "name", start := 10,
                 stop := 11 } [],
         .node { kind := "declaration_list", named := true, start := 11, stop := 13 } []]]

end Sample

open Linter.Sample in
theorem relaxing_adds_no_failure_interface :
    strict.validate = .ok strict ∧ relaxed.Relaxes strict ∧
    (findings strict interface "x.cs").failedUnder "Naming" = 1 ∧
    (findings relaxed interface "x.cs").failedUnder "Naming" = 0 ∧
    (findings relaxed interface "x.cs").failedCount ≤
      (findings strict interface "x.cs").failedCount := by
  have valid : strict.validate = .ok strict := by decide
  have relaxes : relaxed.Relaxes strict :=
    ⟨rfl, by decide, by decide, by decide, by decide, by decide, by decide⟩
  have fewer := relaxing_adds_no_failure relaxed strict interface "x.cs" valid relaxes
  exact ⟨valid, relaxes, by decide, by decide, fewer.2⟩

end Linter

end SharpLint
