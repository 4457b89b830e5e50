import SharpLint.Linter
import SharpLint.Proofs.Findings.Gathering

/-!
# What the analyzers contribute

Each analyzer has its turn in an analysis. It is started, and then contributes what it reported or
the fault that stopped it, or the analysis has been cancelled before. `contributions` lists what an
analysis is made of, whichever analyzers were started:

* `merge_turns`: merging the outcomes of the turns gathers these contributions;
* `run_eq_turns`: analyzers that run one after another have the turns of `inOrder`, so the linter
  analyses by turns (`analyze_eq_analyzeTurns`);
* `analyze_gathers_contributions`: the findings on a document that can be parsed.
-/

namespace SharpLint

/-- An analyzer in an analysis, and whether it was started. -/
structure Turn where
  analyzer : Analyzer
  started : Bool

def Issue.ofFault (name message : String) : Issue where
  rule := .analyzerFault
  description := "Analyzer '" ++ name ++ "' failed: " ++ message
  passed := false
  suggestion := "Report this failure together with the analyzed source"
  snippet := name
  detail := some
    ("**Analyzer failure**\n- Analyzer: `" ++ name ++ "`\n- Error: " ++ message)

def Issue.ofCancellation (names : List String) : Issue where
  rule := .cancelled
  description := "Analysis cancelled before: " ++ ", ".intercalate names
  passed := false
  suggestion := "Run the analysis again to get a complete report"
  detail := some ("**Analysis cancelled**\n- Skipped: " ++ ", ".intercalate names)

/-- What an analyzer that is started contributes: its issues if it finishes, and else only its
fault. -/
def Analyzer.contribution (analyzer : Analyzer) (root : Node) : Contribution :=
  match (analyzer.inspect root).ending with
  | .finished => ⟨analyzer.category, (analyzer.inspect root).issues⟩
  | .failed causes => ⟨"Error", [.ofFault analyzer.name (": ".intercalate causes)]⟩
  | .aborted message => ⟨"Error", [.ofFault analyzer.name (message.getD "panic")]⟩

namespace Turn

def outcome (root : Node) (turn : Turn) : Outcome :=
  if turn.started then Linter.outcomeOf (turn.analyzer.inspect root) else .skipped

def result (root : Node) (turn : Turn) : Analyzer × Outcome := (turn.analyzer, turn.outcome root)

def skipped (turns : List Turn) : List String :=
  (turns.filter (!·.started)).map (·.analyzer.name)

def interruption : List String → List Contribution
  | [] => []
  | names => [⟨"Error", [.ofCancellation names]⟩]

/-- The contributions to an analysis: those of the analyzers that were started, in order, and the
interruption that kept the others from it. -/
def contributions (root : Node) (turns : List Turn) : List Contribution :=
  (turns.filter (·.started)).map (·.analyzer.contribution root) ++ interruption (skipped turns)

/-- The turns of analyzers that run one after another. One that cancels the analysis ends it for
those that come later. -/
def inOrder (root : Node) : Bool → List Analyzer → List Turn
  | _, [] => []
  | cancelled, analyzer :: analyzers =>
    ⟨analyzer, !cancelled⟩ ::
      inOrder root (cancelled || (analyzer.inspect root).cancels) analyzers

/-- The turns of analyzers that run side by side, where chance decides which of them see the cancel
flag in time. -/
def sideBySide (started : Nat → Bool) (analyzers : List Analyzer) : List Turn :=
  analyzers.zipIdx.map fun (analyzer, position) => ⟨analyzer, started position⟩

end Turn

namespace Linter

open Turn

def analyzeTurns (linter : Linter) (turns : Node → List Turn) (document : Document)
    (fileName : String) : Findings :=
  if Text.allBlank document.source.text then { fileName }
  else
    match document.parse linter.config.allowPartial with
    | .error error => .ofError fileName (parseFailure error)
    | .ok root => merge fileName ((turns root).map (result root))

def analyzeSideBySide (linter : Linter) (started : Nat → Bool) (document : Document)
    (fileName : String) : Findings :=
  linter.analyzeTurns (fun _ => sideBySide started linter.analyzers) document fileName

/-! ## Outcomes -/

theorem analyzerFault_eq (name message : String) :
    analyzerFault name message = .ofFault name message := by
  simp [analyzerFault, Issue.ofFault, Rule.title, toString]

theorem cancellation_eq (names : List String) : cancellation names = .ofCancellation names := by
  simp [cancellation, Issue.ofCancellation, Rule.title, toString]

theorem outcomeOf_ne_skipped (inspection : Inspection) : outcomeOf inspection ≠ .skipped := by
  unfold outcomeOf
  split <;> simp

theorem record_outcomeOf (findings : Findings) (analyzer : Analyzer) (root : Node) :
    record findings (analyzer, outcomeOf (analyzer.inspect root)) =
      findings.add (analyzer.contribution root).category (analyzer.contribution root).issues := by
  unfold outcomeOf Analyzer.contribution
  cases (analyzer.inspect root).ending with
  | finished => rfl
  | failed causes => exact congrArg (findings.add "Error" [·]) (analyzerFault_eq _ _)
  | aborted message => exact congrArg (findings.add "Error" [·]) (analyzerFault_eq _ _)

theorem skippedNames_turns (root : Node) (turns : List Turn) :
    skippedNames (turns.map (result root)) = skipped turns := by
  induction turns with
  | nil => rfl
  | cons turn turns ih =>
      obtain ⟨analyzer, started⟩ := turn
      simp only [skippedNames, skipped] at ih ⊢
      cases started with
      | false => simpa [result, outcome] using ih
      | true => simpa [result, outcome, outcomeOf_ne_skipped] using ih

/-! ## Merging the outcomes -/

theorem foldl_record_turns (root : Node) (fileName : String) (earlier : List Contribution)
    (turns : List Turn) :
    (turns.map (result root)).foldl record (.ofContributions fileName earlier) =
      .ofContributions fileName
        (earlier ++ (turns.filter (·.started)).map (·.analyzer.contribution root)) := by
  induction turns generalizing earlier with
  | nil => simp
  | cons turn turns ih =>
      obtain ⟨analyzer, started⟩ := turn
      rw [List.map_cons, List.foldl_cons]
      cases started with
      | false =>
          have unchanged : record (.ofContributions fileName earlier)
              (result root ⟨analyzer, false⟩) = .ofContributions fileName earlier := rfl
          rw [unchanged, ih]
          simp
      | true =>
          have added : record (.ofContributions fileName earlier) (result root ⟨analyzer, true⟩) =
              .ofContributions fileName (earlier ++ [analyzer.contribution root]) := by
            rw [← Findings.add_ofContributions]
            exact record_outcomeOf _ analyzer root
          rw [added, ih]
          simp

theorem merge_turns (root : Node) (fileName : String) (turns : List Turn) :
    merge fileName (turns.map (result root)) =
      .ofContributions fileName (contributions root turns) := by
  have merged := foldl_record_turns root fileName [] turns
  rw [Findings.ofContributions_nil, List.nil_append] at merged
  simp only [merge, merged, skippedNames_turns, contributions]
  cases skipped turns with
  | nil => simp [interruption]
  | cons name names =>
      have said : interruption (name :: names) = [⟨"Error", [cancellation (name :: names)]⟩] := by
        rw [cancellation_eq]
        rfl
      rw [said]
      exact Findings.add_ofContributions _ _ _ _

theorem contributions_split (root : Node) (ran skipped : List Analyzer) :
    contributions root (ran.map (⟨·, true⟩) ++ skipped.map (⟨·, false⟩)) =
      ran.map (·.contribution root) ++ interruption (skipped.map (·.name)) := by
  have started : (ran.map (Turn.mk · true) ++ skipped.map (Turn.mk · false)).filter (·.started) =
      ran.map (Turn.mk · true) := by
    rw [List.filter_append, List.filter_eq_self.mpr (by simp), List.filter_eq_nil_iff.mpr (by simp),
      List.append_nil]
  have others : (ran.map (Turn.mk · true) ++ skipped.map (Turn.mk · false)).filter (!·.started) =
      skipped.map (Turn.mk · false) := by
    rw [List.filter_append, List.filter_eq_nil_iff.mpr (by simp), List.filter_eq_self.mpr (by simp),
      List.nil_append]
  simp only [contributions, Turn.skipped, started, others, List.map_map]
  rfl

theorem contributions_started (root : Node) (analyzers : List Analyzer) :
    contributions root (analyzers.map (⟨·, true⟩)) = analyzers.map (·.contribution root) := by
  simpa [interruption] using contributions_split root analyzers []

/-! ## Analyzers that run one after another -/

theorem analyzers_inOrder (root : Node) (cancelled : Bool) (analyzers : List Analyzer) :
    (inOrder root cancelled analyzers).map (·.analyzer) = analyzers := by
  induction analyzers generalizing cancelled with
  | nil => rfl
  | cons analyzer analyzers ih => rw [inOrder, List.map_cons, ih]

theorem inOrder_cancelled (root : Node) (analyzers : List Analyzer) :
    inOrder root true analyzers = analyzers.map (⟨·, false⟩) := by
  induction analyzers with
  | nil => rfl
  | cons analyzer analyzers ih => rw [inOrder, Bool.true_or, ih, List.map_cons, Bool.not_true]

theorem inOrder_append (root : Node) (cancelled : Bool) (first second : List Analyzer) :
    inOrder root cancelled (first ++ second) = inOrder root cancelled first ++
      inOrder root (cancelled || first.any fun analyzer => (analyzer.inspect root).cancels)
        second := by
  induction first generalizing cancelled with
  | nil => simp [inOrder]
  | cons analyzer first ih =>
      rw [List.cons_append, inOrder, ih, inOrder, List.cons_append, List.any_cons, Bool.or_assoc]

theorem inOrder_of_uncancelled {root : Node} {analyzers : List Analyzer}
    (uncancelled : ∀ analyzer ∈ analyzers, (analyzer.inspect root).cancels = false) :
    inOrder root false analyzers = analyzers.map (⟨·, true⟩) := by
  induction analyzers with
  | nil => rfl
  | cons analyzer analyzers ih =>
      rw [List.forall_mem_cons] at uncancelled
      rw [inOrder, uncancelled.1, List.map_cons]
      exact congrArg _ (ih uncancelled.2)

theorem run_eq_turns (root : Node) (cancelled : Bool) (analyzers : List Analyzer) :
    run root cancelled analyzers =
      ((inOrder root cancelled analyzers).map (result root),
        cancelled || analyzers.any fun analyzer => (analyzer.inspect root).cancels) := by
  induction analyzers generalizing cancelled with
  | nil => simp [run, inOrder]
  | cons analyzer analyzers ih =>
      cases cancelled with
      | true => simp [run, inOrder, ih, result, outcome]
      | false => simp [run, inOrder, ih, result, outcome]

theorem analyze_eq_analyzeTurns (linter : Linter) (cancelled : Bool) (document : Document)
    (fileName : String) :
    (linter.analyze cancelled document fileName).1 =
      linter.analyzeTurns (inOrder · cancelled linter.analyzers) document fileName := by
  unfold analyze analyzeTurns
  split
  · rfl
  · cases document.parse linter.config.allowPartial with
    | error error => rfl
    | ok root => simp only [run_eq_turns]

/-! ## Documents that can be parsed -/

theorem analyzeTurns_of_parse (linter : Linter) {document : Document} {root : Node}
    (written : Text.allBlank document.source.text = false)
    (parsed : document.parse linter.config.allowPartial = .ok root)
    (turns : Node → List Turn) (fileName : String) :
    linter.analyzeTurns turns document fileName =
      .ofContributions fileName (contributions root (turns root)) := by
  rw [analyzeTurns, written, parsed]
  exact merge_turns root fileName (turns root)

theorem analyze_of_parse (linter : Linter) {document : Document} {root : Node}
    (written : Text.allBlank document.source.text = false)
    (parsed : document.parse linter.config.allowPartial = .ok root)
    (cancelled : Bool) (fileName : String) :
    (linter.analyze cancelled document fileName).1 =
      .ofContributions fileName (contributions root (inOrder root cancelled linter.analyzers)) := by
  rw [analyze_eq_analyzeTurns]
  exact analyzeTurns_of_parse linter written parsed _ fileName

namespace Sample

def tree : Concrete := .node { kind := "identifier", named := true, start := 0, stop := 1 } []

def document : Document := { source := { text := "x" }, tree := some tree }

def root : Node := tree.convert document.source {}

def remark : Issue := { rule := .emptyCatch, description := "remark" }

def scripted (name category : String) (inspection : Inspection) : Analyzer where
  name := name
  category := category
  inspect _ := inspection

def colliding : List Analyzer :=
  [scripted "first" "Error" { issues := [remark] },
   scripted "second" "Size" { issues := [remark], ending := .aborted none },
   scripted "third" "Size" { cancels := true },
   scripted "fourth" "Error" { issues := [remark] }]

end Sample

/-- The findings on a document are its contributions gathered, however the analyzers run. -/
theorem analyze_gathers_contributions (linter : Linter) (document : Document) (root : Node)
    (fileName : String) (written : Text.allBlank document.source.text = false)
    (parsed : document.parse linter.config.allowPartial = .ok root) :
    (∀ cancelled, (linter.analyze cancelled document fileName).1 =
      .ofContributions fileName (contributions root (inOrder root cancelled linter.analyzers))) ∧
    ∀ started, linter.analyzeSideBySide started document fileName =
      .ofContributions fileName (contributions root (sideBySide started linter.analyzers)) := by
  constructor
  · intro cancelled
    exact analyze_of_parse linter written parsed cancelled fileName
  · intro started
    exact analyzeTurns_of_parse linter written parsed _ fileName

theorem analyze_gathers_contributions_colliding :
    Text.allBlank Sample.document.source.text = false ∧
    Sample.document.parse false = .ok Sample.root ∧
    (analyze { analyzers := Sample.colliding } false Sample.document "x.cs").1 =
      { fileName := "x.cs"
        categories :=
          [{ name := "Error"
             issues :=
              [{ rule := .emptyCatch, description := "remark", category := "Error" },
               { rule := .analyzerFault
                 description := "Analyzer 'second' failed: panic"
                 passed := false
                 suggestion := "Report this failure together with the analyzed source"
                 snippet := "second"
                 category := "Error"
                 detail := "**Analyzer failure**\n- Analyzer: `second`\n- Error: panic" },
               { rule := .cancelled
                 description := "Analysis cancelled before: fourth"
                 passed := false
                 suggestion := "Run the analysis again to get a complete report"
                 category := "Error"
                 detail := "**Analysis cancelled**\n- Skipped: fourth" }] },
           { name := "Size", issues := [] }] } := by
  have written : Text.allBlank Sample.document.source.text = false := by decide
  have gathered := analyze_gathers_contributions { analyzers := Sample.colliding } Sample.document
    Sample.root "x.cs" written rfl
  exact ⟨written, rfl, (gathered.1 false).trans rfl⟩

end Linter

end SharpLint
