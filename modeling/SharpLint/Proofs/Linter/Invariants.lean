import SharpLint.Proofs.Check.Reports
import SharpLint.Proofs.Linter.Turns

/-!
# Invariants of every analysis

Whatever becomes of a document, its findings are contributions gathered, so they are well-formed;
and an issue explains itself unless an analyzer from outside reported it. Both hold for analyzers
that run one after another and for analyzers that run side by side.
-/

namespace SharpLint.Linter
open Turn

def ReportedBy (analyzers : List Analyzer) (root : Node) (issue : Issue) : Prop :=
  ∃ analyzer ∈ analyzers, (analyzer.inspect root).ending = .finished ∧
    ∃ bare ∈ (analyzer.inspect root).issues, issue = { bare with category := analyzer.category }

/-- What the findings on a document guarantee when the analyzers of `extras` come from outside. -/
structure Upholds (config : Config) (extras : List Analyzer) (document : Document)
    (findings : Findings) : Prop where
  wellFormed : findings.WellFormed
  complete : ∀ issue ∈ findings.issues, issue.Complete ∨
    ∃ root, document.parse config.allowPartial = .ok root ∧ ReportedBy extras root issue

variable {config : Config} {extras : List Analyzer} {document : Document} {root : Node}

theorem mem_contribution {analyzer : Analyzer} {bare : Issue}
    (member : bare ∈ (analyzer.contribution root).issues) :
    ((analyzer.inspect root).ending = .finished ∧ bare ∈ (analyzer.inspect root).issues ∧
        (analyzer.contribution root).category = analyzer.category) ∨
      ∃ message, bare = .ofFault analyzer.name message := by
  unfold Analyzer.contribution at member ⊢
  cases ending : (analyzer.inspect root).ending with
  | finished =>
      rw [ending] at member
      exact .inl ⟨rfl, member, rfl⟩
  | failed causes =>
      rw [ending] at member
      exact .inr ⟨_, List.mem_singleton.mp member⟩
  | aborted message =>
      rw [ending] at member
      exact .inr ⟨_, List.mem_singleton.mp member⟩

theorem mem_contributions {turns : List Turn} {contribution : Contribution}
    (member : contribution ∈ contributions root turns) :
    (∃ analyzer ∈ turns.map (·.analyzer), contribution = analyzer.contribution root) ∨
      ∃ names, contribution = ⟨"Error", [.ofCancellation names]⟩ := by
  rcases List.mem_append.mp member with started | interrupted
  · obtain ⟨turn, chosen, rfl⟩ := List.mem_map.mp started
    exact .inl ⟨_, List.mem_map_of_mem (List.mem_filter.mp chosen).1, rfl⟩
  · cases names : skipped turns with
    | nil => simp [names, interruption] at interrupted
    | cons name others =>
        rw [names] at interrupted
        exact .inr ⟨_, List.mem_singleton.mp interrupted⟩

theorem complete_of_mem_contribution {analyzer : Analyzer} {bare : Issue}
    (registered : analyzer ∈ Analyzer.enabled config ++ extras)
    (member : bare ∈ (analyzer.contribution root).issues) :
    bare.Complete ∨
      ReportedBy extras root { bare with category := (analyzer.contribution root).category } := by
  rcases mem_contribution member with ⟨finished, reported, category⟩ | ⟨message, rfl⟩
  · rcases List.mem_append.mp registered with builtin | extra
    · exact .inl (Analyzer.builtin_complete (List.mem_filter.mp builtin).1 reported)
    · exact .inr ⟨analyzer, extra, finished, bare, reported, by rw [category]⟩
  · exact .inl (analyzerFault_eq _ _ ▸ analyzerFault_complete _ _)

theorem upholds_ofContributions (fileName : String) {contributions : List Contribution}
    (accounted : ∀ contribution ∈ contributions, ∀ bare ∈ contribution.issues, bare.Complete ∨
      ∃ root, document.parse config.allowPartial = .ok root ∧
        ReportedBy extras root { bare with category := contribution.category }) :
    Upholds config extras document (.ofContributions fileName contributions) := by
  refine ⟨Findings.ofContributions_wellFormed _ _, ?_⟩
  intro issue member
  obtain ⟨contribution, made, bare, present, rfl⟩ :=
    Findings.mem_issues_ofContributions.mp member
  rcases accounted contribution made bare present with complete | reported
  · exact .inl (complete.restamp _)
  · exact .inr reported

theorem upholds_ofError (fileName : String) (error : ParseError) :
    Upholds config extras document (.ofError fileName (parseFailure error)) := by
  have single : Findings.ofError fileName (parseFailure error) =
      .ofContributions fileName [⟨Findings.errorCategory, [parseFailure error]⟩] := rfl
  rw [single]
  apply upholds_ofContributions
  intro contribution made bare present
  rw [List.mem_singleton.mp made] at present
  rw [List.mem_singleton.mp present]
  exact .inl (parseFailure_complete error)

theorem upholds_of_parse (fileName : String)
    (parsed : document.parse config.allowPartial = .ok root) {turns : List Turn}
    (registered : turns.map (·.analyzer) = Analyzer.enabled config ++ extras) :
    Upholds config extras document (.ofContributions fileName (contributions root turns)) := by
  apply upholds_ofContributions
  intro contribution made bare present
  rcases mem_contributions made with ⟨analyzer, listed, rfl⟩ | ⟨names, rfl⟩
  · rcases complete_of_mem_contribution (registered ▸ listed) present with complete | reported
    · exact .inl complete
    · exact .inr ⟨root, parsed, reported⟩
  · rw [List.mem_singleton.mp present]
    exact .inl (cancellation_eq names ▸ cancellation_complete names)

theorem analyzeTurns_upholds (fileName : String) {turns : Node → List Turn}
    (registered : ∀ root, (turns root).map (·.analyzer) = Analyzer.enabled config ++ extras) :
    Upholds config extras document
      (analyzeTurns { config, analyzers := Analyzer.enabled config ++ extras } turns document
        fileName) := by
  cases blank : Text.allBlank document.source.text with
  | true =>
      rw [analyzeTurns, blank, if_pos rfl, ← Findings.ofContributions_nil]
      apply upholds_ofContributions
      intro contribution made
      cases made
  | false =>
      cases parsed : document.parse config.allowPartial with
      | error error =>
          rw [analyzeTurns, blank, parsed]
          exact upholds_ofError fileName error
      | ok root =>
          rw [analyzeTurns_of_parse _ blank parsed]
          exact upholds_of_parse fileName parsed (registered root)

theorem analyzers_sideBySide (started : Nat → Bool) (analyzers : List Analyzer) :
    (sideBySide started analyzers).map (·.analyzer) = analyzers := by
  rw [sideBySide, List.map_map]
  exact List.zipIdx_map_fst 0 analyzers

/-- Every analysis upholds the invariants, and so does everything the library itself reports. -/
theorem analysis_invariants (config : Config) (extras : List Analyzer) (document : Document)
    (fileName : String) :
    (∀ cancelled, Upholds config extras document
      (analyze { config, analyzers := Analyzer.enabled config ++ extras } cancelled document
        fileName).1) ∧
    (∀ started, Upholds config extras document
      (analyzeSideBySide { config, analyzers := Analyzer.enabled config ++ extras } started document
        fileName)) ∧
    (∀ analyzer ∈ Analyzer.builtin config, ∀ root, ∀ issue ∈ (analyzer.inspect root).issues,
      issue.Complete) ∧
    (∀ error, (parseFailure error).Complete) ∧
    (∀ name message, (analyzerFault name message).Complete) ∧
    ∀ names, (cancellation names).Complete := by
  refine ⟨?_, ?_, ?_, parseFailure_complete, analyzerFault_complete, cancellation_complete⟩
  · intro cancelled
    rw [analyze_eq_analyzeTurns]
    exact analyzeTurns_upholds fileName fun root => analyzers_inOrder root cancelled _
  · intro started
    exact analyzeTurns_upholds fileName fun _ => analyzers_sideBySide started _
  · intro analyzer member root issue reported
    exact Analyzer.builtin_complete member reported

theorem analysis_invariants_colliding :
    Analyzer.ofCheck "documentation" "Documentation" Check.Documentation.issues ∈
      Analyzer.builtin {} ∧
    Check.Documentation.score 0 0 ∈ Check.Documentation.issues Sample.root ∧
    (Check.Documentation.score 0 0).Complete ∧
    (analyze { analyzers := Analyzer.enabled {} ++ Sample.colliding } false Sample.document
      "x.cs").1.WellFormed := by
  have builtin : Analyzer.ofCheck "documentation" "Documentation" Check.Documentation.issues ∈
      Analyzer.builtin {} := by simp [Analyzer.builtin]
  have scored : Check.Documentation.score 0 0 ∈ Check.Documentation.issues Sample.root := by decide
  have invariants := analysis_invariants {} Sample.colliding Sample.document "x.cs"
  exact ⟨builtin, scored, invariants.2.2.1 _ builtin Sample.root _ scored,
    (invariants.1 false).wellFormed⟩

end SharpLint.Linter
