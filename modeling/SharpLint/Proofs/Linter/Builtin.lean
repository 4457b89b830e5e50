import SharpLint.Proofs.Linter.Faults

/-!
# Analyses by the built-in analyzers

`Linter.findings` is what a linter finds that has the built-in analyzers only and is not cancelled.
None of them cancels it either, so whether they run side by side or one after another makes no
difference: the findings on a document that can be parsed are what all of them contribute
(`findings_of_parse`).
-/

namespace SharpLint

variable {config : Config} {document : Document} {root : Node}

namespace Analyzer

theorem builtin_finishes {analyzer : Analyzer} (member : analyzer ∈ builtin config)
    (root : Node) :
    (analyzer.inspect root).ending = .finished ∧ (analyzer.inspect root).cancels = false := by
  simp only [builtin, List.mem_cons, List.not_mem_nil, or_false] at member
  rcases member with rfl | rfl | rfl | rfl | rfl | rfl | rfl <;> exact ⟨rfl, rfl⟩

theorem enabled_subset_builtin (config : Config) : enabled config ⊆ builtin config :=
  fun _ member => (List.mem_filter.mp member).1

theorem enabled_uncancelled (config : Config) (root : Node) :
    ∀ analyzer ∈ enabled config, (analyzer.inspect root).cancels = false := fun _ member =>
  (builtin_finishes (enabled_subset_builtin config member) root).2

end Analyzer

namespace Linter

def findings (config : Config) (document : Document) (fileName : String) : Findings :=
  if config.parallel then analyzeSideBySide { config } (fun _ => true) document fileName
  else (analyze { config } false document fileName).1

theorem findings_of_blank (blank : Text.allBlank document.source.text = true)
    (fileName : String) : findings config document fileName = { fileName } := by
  have turns (turns : Node → List Turn) :
      analyzeTurns { config } turns document fileName = { fileName } := by
    rw [analyzeTurns, if_pos blank]
  rw [findings, analyze_eq_analyzeTurns, analyzeSideBySide, turns, turns, ite_self]

theorem findings_of_error (written : Text.allBlank document.source.text = false)
    {error : ParseError} (refused : document.parse config.allowPartial = .error error)
    (fileName : String) :
    findings config document fileName = .ofError fileName (parseFailure error) := by
  have turns (turns : Node → List Turn) : analyzeTurns { config } turns document fileName =
      .ofError fileName (parseFailure error) := by
    rw [analyzeTurns, written, refused]
    rfl
  rw [findings, analyze_eq_analyzeTurns, analyzeSideBySide, turns, turns, ite_self]

theorem findings_of_parse (written : Text.allBlank document.source.text = false)
    (parsed : document.parse config.allowPartial = .ok root) (fileName : String) :
    findings config document fileName =
      .ofContributions fileName ((Analyzer.enabled config).map (·.contribution root)) := by
  rw [findings, analyze_of_uncancelled written parsed (Analyzer.enabled_uncancelled config root),
    analyzeSideBySide_all written parsed, ite_self]

end Linter

end SharpLint
