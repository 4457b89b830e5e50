import SharpLint.Proofs.Linter.Turns

/-!
# Cancelled analyses

Analyzers that run one after another run up to the one that cancels the analysis, and no further.
The findings are those of the analyzers that ran, and one more failure that names the others. The
cancel flag outlives the analysis: until it is taken back, analyzers are only named.
-/

namespace SharpLint.Linter
open Turn

/-- The analyzers are cut where their analysis is cancelled: at the start if the flag is set
already, and else after the first analyzer that sets it, if any does. -/
structure CutsAt (root : Node) (cancelled : Bool) (analyzers ran skipped : List Analyzer) :
    Prop where
  split : analyzers = ran ++ skipped
  atStart : cancelled = true → ran = []
  afterFirst : cancelled = false →
    (skipped = [] ∧ ∀ analyzer ∈ ran, (analyzer.inspect root).cancels = false) ∨
      ∃ earlier last, ran = earlier ++ [last] ∧ (last.inspect root).cancels = true ∧
        ∀ analyzer ∈ earlier, (analyzer.inspect root).cancels = false

/-- The issue is the last failure of the findings `after`, which are those `before` apart from it.
Their category is made at the end if it is missing. -/
def AppendsError (issue : Issue) (before after : Findings) : Prop :=
  after.fileName = before.fileName ∧
    (("Error" ∉ before.categories.map (·.name) ∧
        after.categories = before.categories ++ [⟨"Error", [issue]⟩]) ∨
      ∃ front issues back, "Error" ∉ front.map (·.name) ∧
        before.categories = front ++ ⟨"Error", issues⟩ :: back ∧
        after.categories = front ++ ⟨"Error", issues ++ [issue]⟩ :: back)

/-- The findings `after` are those `before`, and name the skipped analyzers if there are any. -/
def Interrupts (skipped : List Analyzer) (before after : Findings) : Prop :=
  if skipped = [] then after = before
  else ∃ issue : Issue, issue.rule = .cancelled ∧ issue.passed = false ∧
    issue.description =
      "Analysis cancelled before: " ++ ", ".intercalate (skipped.map (·.name)) ∧
    issue.category = "Error" ∧ AppendsError issue before after

def onlyCancelled (fileName : String) (analyzers : List Analyzer) : Findings where
  fileName := fileName
  categories :=
    [{ name := "Error"
       issues := [{ Issue.ofCancellation (analyzers.map (·.name)) with category := "Error" }] }]

/-! ## Where the analyzers are cut -/

theorem exists_cut (root : Node) (cancelled : Bool) (analyzers : List Analyzer) :
    ∃ ran skipped, CutsAt root cancelled analyzers ran skipped := by
  cases cancelled with
  | true => exact ⟨[], analyzers, rfl, fun _ => rfl, nofun⟩
  | false =>
      cases found : analyzers.find? fun analyzer => (analyzer.inspect root).cancels with
      | none =>
          have clear : ∀ analyzer ∈ analyzers, (analyzer.inspect root).cancels = false := by
            simpa using List.find?_eq_none.mp found
          refine ⟨analyzers, [], (List.append_nil _).symm, nofun, fun _ => ?_⟩
          exact .inl ⟨rfl, clear⟩
      | some last =>
          obtain ⟨sets, earlier, later, split, clear⟩ := List.find?_eq_some_iff_append.mp found
          refine ⟨earlier ++ [last], later, by simp [split], nofun, fun _ => ?_⟩
          exact .inr ⟨earlier, last, rfl, sets, by simpa using clear⟩

theorem inOrder_last {root : Node} {earlier : List Analyzer} (last : Analyzer)
    (clear : ∀ analyzer ∈ earlier, (analyzer.inspect root).cancels = false) :
    inOrder root false (earlier ++ [last]) = (earlier ++ [last]).map (⟨·, true⟩) := by
  have unset : (earlier.any fun analyzer => (analyzer.inspect root).cancels) = false := by
    simpa using clear
  rw [inOrder_append, unset, inOrder_of_uncancelled clear, List.map_append]
  rfl

theorem CutsAt.inOrder_ran {root : Node} {cancelled : Bool} {analyzers ran skipped : List Analyzer}
    (cut : CutsAt root cancelled analyzers ran skipped) :
    inOrder root false ran = ran.map (⟨·, true⟩) := by
  cases cancelled with
  | true =>
      rw [cut.atStart rfl]
      rfl
  | false =>
      rcases cut.afterFirst rfl with ⟨-, clear⟩ | ⟨earlier, last, rfl, -, clear⟩
      · exact inOrder_of_uncancelled clear
      · exact inOrder_last last clear

theorem CutsAt.inOrder_eq {root : Node} {cancelled : Bool} {analyzers ran skipped : List Analyzer}
    (cut : CutsAt root cancelled analyzers ran skipped) :
    inOrder root cancelled analyzers = ran.map (⟨·, true⟩) ++ skipped.map (⟨·, false⟩) := by
  rw [cut.split]
  cases cancelled with
  | true =>
      rw [cut.atStart rfl]
      exact inOrder_cancelled root skipped
  | false =>
      rw [inOrder_append, cut.inOrder_ran]
      rcases cut.afterFirst rfl with ⟨rfl, -⟩ | ⟨earlier, last, rfl, sets, -⟩
      · rfl
      · have set : ((earlier ++ [last]).any fun analyzer =>
            (analyzer.inspect root).cancels) = true := by simp [sets]
        rw [set, Bool.or_true, inOrder_cancelled]

theorem CutsAt.run_ran {root : Node} {cancelled : Bool} {analyzers ran skipped : List Analyzer}
    (cut : CutsAt root cancelled analyzers ran skipped) :
    (run root false ran).1 =
      ran.map fun analyzer => (analyzer, outcomeOf (analyzer.inspect root)) := by
  rw [run_eq_turns, cut.inOrder_ran, List.map_map]
  rfl

theorem CutsAt.run_eq {root : Node} {cancelled : Bool} {analyzers ran skipped : List Analyzer}
    (cut : CutsAt root cancelled analyzers ran skipped) :
    (run root cancelled analyzers).1 =
      ran.map (fun analyzer => (analyzer, outcomeOf (analyzer.inspect root))) ++
        skipped.map (·, .skipped) := by
  rw [run_eq_turns, cut.inOrder_eq, List.map_append, List.map_map, List.map_map]
  rfl

/-! ## What the cut does to the findings -/

theorem appendsError_add (findings : Findings) (issue : Issue) :
    AppendsError { issue with category := "Error" } findings (findings.add "Error" [issue]) := by
  refine ⟨rfl, ?_⟩
  by_cases present : "Error" ∈ findings.categories.map (·.name)
  · right
    obtain ⟨before, after, names, fresh⟩ := List.eq_append_cons_of_mem present
    obtain ⟨front, rest, split, rfl, tail⟩ := List.map_eq_append_iff.mp names
    obtain ⟨⟨name, issues⟩, back, rfl, rfl, -⟩ := List.map_eq_cons_iff.mp tail
    refine ⟨front, issues, back, fresh, split, ?_⟩
    rw [Findings.add, split]
    exact addIssues_of_mem [issue] issues back fresh
  · left
    exact ⟨present, addIssues_of_notMem [issue] present⟩

theorem interrupts_ofContributions (fileName : String) (contributions : List Contribution)
    (skipped : List Analyzer) :
    Interrupts skipped (.ofContributions fileName contributions)
      (.ofContributions fileName (contributions ++ interruption (skipped.map (·.name)))) := by
  cases skipped with
  | nil => simp [Interrupts, interruption]
  | cons first others =>
      rw [Interrupts, if_neg (by simp)]
      have appended := appendsError_add (.ofContributions fileName contributions)
        (.ofCancellation ((first :: others).map (·.name)))
      rw [Findings.add_ofContributions] at appended
      exact ⟨_, rfl, rfl, rfl, rfl, appended⟩

/-! ## The flag between analyses -/

/-- What happens in a session: somebody sets the cancel flag or takes it back, or a document is
analysed. -/
inductive SessionStep where
  | flag (value : Bool)
  | source (document : Document) (fileName : String)

def SessionStep.flagAfter (linter : Linter) (cancelled : Bool) : SessionStep → Bool
  | .flag value => value
  | .source document fileName => (linter.analyze cancelled document fileName).2

def flagAfter (linter : Linter) (cancelled : Bool) (steps : List SessionStep) : Bool :=
  steps.foldl (SessionStep.flagAfter linter) cancelled

theorem analyze_keeps_flag (linter : Linter) (document : Document) (fileName : String) :
    (linter.analyze true document fileName).2 = true := by
  unfold analyze
  split
  · rfl
  · split
    · rfl
    · simp [run_eq_turns]

theorem flagAfter_of_unreset (linter : Linter) {steps : List SessionStep}
    (unreset : ∀ step ∈ steps, step ≠ .flag false) : flagAfter linter true steps = true := by
  induction steps with
  | nil => rfl
  | cons step steps ih =>
      rw [List.forall_mem_cons] at unreset
      have kept : SessionStep.flagAfter linter true step = true := by
        cases step with
        | flag value =>
            cases value with
            | true => rfl
            | false => exact absurd rfl unreset.1
        | source document fileName => exact analyze_keeps_flag linter document fileName
      rw [flagAfter, List.foldl_cons, kept]
      exact ih unreset.2

theorem analyze_cancelled {linter : Linter} {document : Document} {root : Node}
    (written : Text.allBlank document.source.text = false)
    (parsed : document.parse linter.config.allowPartial = .ok root)
    (nonempty : linter.analyzers ≠ []) (fileName : String) :
    (linter.analyze true document fileName).1 = onlyCancelled fileName linter.analyzers := by
  have skipped := contributions_split root [] linter.analyzers
  rw [List.map_nil, List.nil_append, List.map_nil, List.nil_append] at skipped
  rw [analyze_of_parse _ written parsed, inOrder_cancelled, skipped]
  cases analyzers : linter.analyzers with
  | nil => exact absurd analyzers nonempty
  | cons first others => rfl

/-- Cancelling cuts an analysis at a prefix of the analyzers, and lasts until it is taken back. -/
theorem cancellation_cuts_analysis (linter : Linter) (document : Document) (root : Node)
    (fileName : String) (written : Text.allBlank document.source.text = false)
    (parsed : document.parse linter.config.allowPartial = .ok root) :
    (∀ cancelled, ∃ ran skipped, CutsAt root cancelled linter.analyzers ran skipped ∧
      (run root cancelled linter.analyzers).1 =
        ran.map (fun analyzer => (analyzer, outcomeOf (analyzer.inspect root))) ++
          skipped.map (·, .skipped) ∧
      (run root false ran).1 =
        ran.map (fun analyzer => (analyzer, outcomeOf (analyzer.inspect root))) ∧
      Interrupts skipped
        (analyze { linter with analyzers := ran } false document fileName).1
        (linter.analyze cancelled document fileName).1) ∧
    ∀ start earlier later, flagAfter linter start earlier = true →
      (∀ step ∈ later, step ≠ .flag false) → linter.analyzers ≠ [] →
      (linter.analyze (flagAfter linter start (earlier ++ later)) document fileName).1 =
        onlyCancelled fileName linter.analyzers := by
  constructor
  · intro cancelled
    obtain ⟨ran, skipped, cut⟩ := exists_cut root cancelled linter.analyzers
    refine ⟨ran, skipped, cut, cut.run_eq, cut.run_ran, ?_⟩
    have alone := analyze_of_parse { linter with analyzers := ran } written parsed false fileName
    rw [analyze_of_parse _ written parsed, alone, cut.inOrder_eq, cut.inOrder_ran,
      contributions_split, contributions_started]
    exact interrupts_ofContributions fileName _ skipped
  · intro start earlier later set unreset nonempty
    have flag : flagAfter linter start (earlier ++ later) = true := by
      rw [flagAfter, List.foldl_append]
      rw [flagAfter] at set
      rw [set]
      exact flagAfter_of_unreset linter unreset
    rw [flag]
    exact analyze_cancelled written parsed nonempty fileName

theorem cancellation_cuts_analysis_colliding :
    Text.allBlank Sample.document.source.text = false ∧
    Sample.document.parse false = .ok Sample.root ∧
    flagAfter { analyzers := Sample.colliding } false [.source Sample.document "x.cs"] = true ∧
    (∀ step ∈ [SessionStep.flag true, .source Sample.document "y.cs"], step ≠ .flag false) ∧
    Sample.colliding ≠ [] ∧
    (∃ ran skipped, CutsAt Sample.root false Sample.colliding ran skipped ∧
      Interrupts skipped (analyze { analyzers := ran } false Sample.document "z.cs").1
        (analyze { analyzers := Sample.colliding } false Sample.document "z.cs").1) ∧
    (analyze { analyzers := Sample.colliding }
        (flagAfter { analyzers := Sample.colliding } false
          [.source Sample.document "x.cs", .flag true, .source Sample.document "y.cs"])
        Sample.document "z.cs").1 =
      { fileName := "z.cs"
        categories :=
          [{ name := "Error"
             issues :=
              [{ rule := .cancelled
                 description := "Analysis cancelled before: first, second, third, fourth"
                 passed := false
                 suggestion := "Run the analysis again to get a complete report"
                 category := "Error"
                 detail :=
                  "**Analysis cancelled**\n- Skipped: first, second, third, fourth" }] }] } := by
  have written : Text.allBlank Sample.document.source.text = false := by decide
  have set : flagAfter { analyzers := Sample.colliding } false
      [.source Sample.document "x.cs"] = true := rfl
  have unreset : ∀ step ∈ [SessionStep.flag true, .source Sample.document "y.cs"],
      step ≠ .flag false := by simp
  have nonempty : Sample.colliding ≠ [] := by simp [Sample.colliding]
  obtain ⟨cuts, lasts⟩ := cancellation_cuts_analysis { analyzers := Sample.colliding }
    Sample.document Sample.root "z.cs" written rfl
  obtain ⟨ran, skipped, cut, -, -, interrupts⟩ := cuts false
  exact ⟨written, rfl, set, unreset, nonempty, ⟨ran, skipped, cut, interrupts⟩,
    lasts false _ _ set unreset nonempty⟩

end SharpLint.Linter
