import SharpLint.Proofs.Linter.Turns

/-!
# Faults are isolated

An analyzer that fails or is aborted changes the findings by one issue that names it. Nothing else
that it reported is left, and everything that the other analyzers report stays as it is.
-/

namespace SharpLint

/-- An analyzer stopped for a reason: the causes it failed with, or the message it was aborted with,
if there was one. -/
inductive Ending.StoppedBy : Ending → String → Prop where
  | failed (causes : List String) : StoppedBy (.failed causes) (": ".intercalate causes)
  | aborted (message : String) : StoppedBy (.aborted (some message)) message
  | silent : StoppedBy (.aborted none) "panic"

def Findings.errors (findings : Findings) : List Issue :=
  ((findings.category? "Error").map (·.issues)).getD []

/-- The findings `after` are those `without` a fault, but for the fault, which follows the failures
that were found `earlier`. -/
structure Isolates (fault : Issue) (earlier without after : Findings) : Prop where
  fileName : after.fileName = without.fileName
  others : after.categories.filter (·.name ≠ "Error") =
    without.categories.filter (·.name ≠ "Error")
  errors : ∃ later, without.errors = earlier.errors ++ later ∧
    after.category? "Error" = some ⟨"Error", earlier.errors ++ fault :: later⟩
  failed : after.failedCount = without.failedCount + 1

open Contribution

theorem Findings.errors_ofContributions (fileName : String) (contributions : List Contribution) :
    (ofContributions fileName contributions).errors =
      Category.stamp "Error" (issuesUnder "Error" contributions) := by
  rw [errors, category?_ofContributions]
  split
  · rfl
  · rename_i absent
    rw [issuesUnder_of_notMem absent]
    rfl

theorem isolates_ofContributions (fileName : String) (front back : List Contribution)
    (fault : Issue) (failing : fault.passed = false) :
    Isolates { fault with category := "Error" }
      (.ofContributions fileName front) (.ofContributions fileName (front ++ back))
      (.ofContributions fileName (front ++ ⟨"Error", [fault]⟩ :: back)) where
  fileName := rfl
  others := by
    rw [Findings.filter_ofContributions (· ≠ "Error"),
      Findings.filter_ofContributions (· ≠ "Error")]
    simp
  errors := by
    refine ⟨Category.stamp "Error" (issuesUnder "Error" back), ?_, ?_⟩
    · rw [Findings.errors_ofContributions, Findings.errors_ofContributions, issuesUnder_append,
        stamp_append]
    · rw [Findings.category?_ofContributions, if_pos (by simp), Findings.errors_ofContributions,
        issuesUnder_append]
      simp [issuesUnder, Category.ofIssues, Category.stamp]
  failed := by
    have one : [fault].countP (!·.passed) = 1 := by simp [failing]
    rw [Findings.failedCount_ofContributions, Findings.failedCount_ofContributions]
    simp only [Contribution.failedCount, List.flatMap_append, List.flatMap_cons,
      List.countP_append, one]
    omega

namespace Linter
open Turn

theorem contribution_of_fault {analyzer : Analyzer} {root : Node}
    (stopped : (analyzer.inspect root).ending ≠ .finished) :
    ∃ message, (analyzer.inspect root).ending.StoppedBy message ∧
      analyzer.contribution root = ⟨"Error", [.ofFault analyzer.name message]⟩ := by
  unfold Analyzer.contribution
  cases ending : (analyzer.inspect root).ending with
  | finished => exact absurd ending stopped
  | failed causes => exact ⟨_, .failed causes, rfl⟩
  | aborted message =>
      cases message with
      | none => exact ⟨_, .silent, rfl⟩
      | some message => exact ⟨_, .aborted message, rfl⟩

theorem sideBySide_all (analyzers : List Analyzer) :
    sideBySide (fun _ => true) analyzers = analyzers.map (⟨·, true⟩) := by
  conv_rhs => rw [← List.zipIdx_map_fst 0 analyzers, List.map_map]
  rfl

variable {config : Config} {document : Document} {root : Node} {analyzers : List Analyzer}

theorem analyze_of_uncancelled (written : Text.allBlank document.source.text = false)
    (parsed : document.parse config.allowPartial = .ok root)
    (uncancelled : ∀ analyzer ∈ analyzers, (analyzer.inspect root).cancels = false)
    (fileName : String) :
    (analyze { config, analyzers } false document fileName).1 =
      .ofContributions fileName (analyzers.map (·.contribution root)) := by
  rw [analyze_of_parse _ written parsed, inOrder_of_uncancelled uncancelled, contributions_started]

theorem analyzeSideBySide_all (written : Text.allBlank document.source.text = false)
    (parsed : document.parse config.allowPartial = .ok root) (fileName : String) :
    analyzeSideBySide { config, analyzers } (fun _ => true) document fileName =
      .ofContributions fileName (analyzers.map (·.contribution root)) := by
  rw [analyzeSideBySide, analyzeTurns_of_parse _ written parsed, sideBySide_all,
    contributions_started]

namespace Sample

def faulty : Analyzer := scripted "faulty" "Size" { issues := [remark], ending := .aborted none }

def failing : Analyzer := scripted "failing" "Error" { ending := .failed ["outer", "inner"] }

def finishing : Analyzer := scripted "finishing" "Size" { issues := [remark] }

end Sample

/-- An analyzer that does not finish leaves nothing but one issue that names it, among the failures
and after those of the analyzers before it. -/
theorem fault_is_isolated (config : Config) (front back : List Analyzer) (faulty : Analyzer)
    (document : Document) (root : Node) (fileName : String)
    (written : Text.allBlank document.source.text = false)
    (parsed : document.parse config.allowPartial = .ok root)
    (uncancelled : ∀ analyzer ∈ front ++ faulty :: back, (analyzer.inspect root).cancels = false)
    (stopped : (faulty.inspect root).ending ≠ .finished) :
    ∃ message, (faulty.inspect root).ending.StoppedBy message ∧
      (let fault : Issue :=
        { rule := .analyzerFault
          description := "Analyzer '" ++ faulty.name ++ "' failed: " ++ message
          passed := false
          suggestion := "Report this failure together with the analyzed source"
          snippet := faulty.name
          category := "Error"
          detail := some
            ("**Analyzer failure**\n- Analyzer: `" ++ faulty.name ++ "`\n- Error: " ++ message) }
       let sequential := fun analyzers => (analyze { config, analyzers } false document fileName).1
       let parallel := fun analyzers =>
        analyzeSideBySide { config, analyzers } (fun _ => true) document fileName
       Isolates fault (sequential front) (sequential (front ++ back))
        (sequential (front ++ faulty :: back)) ∧
       Isolates fault (parallel front) (parallel (front ++ back))
        (parallel (front ++ faulty :: back))) := by
  obtain ⟨message, reason, contributed⟩ := contribution_of_fault stopped
  have isolated := isolates_ofContributions fileName (front.map (·.contribution root))
    (back.map (·.contribution root)) (.ofFault faulty.name message) rfl
  have beforeIt : ∀ analyzer ∈ front, (analyzer.inspect root).cancels = false :=
    fun analyzer member => uncancelled analyzer (List.mem_append_left _ member)
  have withoutIt : ∀ analyzer ∈ front ++ back, (analyzer.inspect root).cancels = false := by
    intro analyzer member
    rcases List.mem_append.mp member with before | after
    · exact beforeIt analyzer before
    · exact uncancelled analyzer (List.mem_append_right _ (List.mem_cons_of_mem _ after))
  refine ⟨message, reason, ?_⟩
  -- Every analyzer is started in all of these runs, so both sides are lists of contributions.
  simp only [analyze_of_uncancelled written parsed beforeIt,
    analyze_of_uncancelled written parsed withoutIt,
    analyze_of_uncancelled written parsed uncancelled, analyzeSideBySide_all written parsed,
    List.map_append, List.map_cons, contributed]
  exact ⟨isolated, isolated⟩

theorem fault_is_isolated_shared :
    Text.allBlank Sample.document.source.text = false ∧
    Sample.document.parse false = .ok Sample.root ∧
    (∀ analyzer ∈ [Sample.failing] ++ Sample.faulty :: [Sample.finishing, Sample.failing],
      (analyzer.inspect Sample.root).cancels = false) ∧
    (Sample.faulty.inspect Sample.root).ending ≠ .finished ∧
    (let findings := fun analyzers =>
      (analyze { analyzers := analyzers } false Sample.document "x.cs").1
     let fault : Issue :=
      { rule := .analyzerFault
        description := "Analyzer 'faulty' failed: panic"
        passed := false
        suggestion := "Report this failure together with the analyzed source"
        snippet := "faulty"
        category := "Error"
        detail := "**Analyzer failure**\n- Analyzer: `faulty`\n- Error: panic" }
     Isolates fault (findings [Sample.failing])
      (findings [Sample.failing, Sample.finishing, Sample.failing])
      (findings [Sample.failing, Sample.faulty, Sample.finishing, Sample.failing])) := by
  have written : Text.allBlank Sample.document.source.text = false := by decide
  have uncancelled : ∀ analyzer ∈
      [Sample.failing] ++ Sample.faulty :: [Sample.finishing, Sample.failing],
      (analyzer.inspect Sample.root).cancels = false := by
    simp [Sample.failing, Sample.faulty, Sample.finishing, Sample.scripted]
  have stopped : (Sample.faulty.inspect Sample.root).ending ≠ .finished := nofun
  obtain ⟨message, reason, isolated, -⟩ := fault_is_isolated {} [Sample.failing]
    [Sample.finishing, Sample.failing] Sample.faulty Sample.document Sample.root "x.cs" written rfl
    uncancelled stopped
  cases reason with
  | silent => exact ⟨written, rfl, uncancelled, stopped, isolated⟩

end Linter

end SharpLint
