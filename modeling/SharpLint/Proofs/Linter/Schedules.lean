import Mathlib.Data.List.Perm.Basic
import Mathlib.Data.List.Range
import SharpLint.Proofs.Linter.Faults

/-!
# Schedules of a parallel analysis

Analyzers that run side by side are picked in an order that nobody controls, and the cancel flag may
be set in between. Each analyzer leaves its outcome in a slot of its own, so all that an order
decides is who is skipped:

* `Step.tracks`, `Runs.tracks`: what a step, and so a run, preserves;
* `exists_runs`: no order is ruled out;
* `findings_independent_of_schedule`: the findings of a run in which every analyzer is picked.
-/

namespace SharpLint

structure Slot where
  analyzer : Analyzer
  outcome : Option Outcome := none

/-- The cancel flag and the slots of the analyzers, in the order of the analyzers. -/
structure Progress where
  cancelled : Bool
  slots : List Slot

namespace Progress

inductive Event where
  | cancel
  | pick (position : Nat)
deriving DecidableEq

/-- A step sets the flag or picks an analyzer that is still waiting. The analyzer reads the flag and
fills its slot. If it asks to cancel the analysis, the flag is set by a step of its own, since
others may be picked in between. -/
inductive Step (root : Node) : Progress → Event → Progress → Prop where
  | cancel (progress : Progress) : Step root progress .cancel { progress with cancelled := true }
  | pick {progress : Progress} {position : Nat} {analyzer : Analyzer}
      (waiting : progress.slots[position]? = some { analyzer }) :
      Step root progress (.pick position)
        { progress with
          slots := progress.slots.set position
            ⟨analyzer, some (Turn.outcome root ⟨analyzer, !progress.cancelled⟩)⟩ }

inductive Runs (root : Node) : Progress → List Event → Progress → Prop where
  | done (progress : Progress) : Runs root progress [] progress
  | step {before between after : Progress} {event : Event} {events : List Event}
      (first : Step root before event between) (others : Runs root between events after) :
      Runs root before (event :: events) after

def start (cancelled : Bool) (analyzers : List Analyzer) : Progress :=
  ⟨cancelled, analyzers.map ({ analyzer := · })⟩

def picks (events : List Event) : List Nat :=
  events.filterMap fun
    | .cancel => none
    | .pick position => some position

def filled (outcomes : List (Analyzer × Outcome)) : List Slot :=
  outcomes.map fun (analyzer, outcome) => ⟨analyzer, some outcome⟩

def skips (outcomes : List (Analyzer × Outcome)) (position : Nat) : Bool :=
  outcomes[position]?.map (·.2) = some .skipped

theorem filled_injective : Function.Injective filled := by
  apply List.map_injective_iff.mpr
  rintro ⟨analyzer, outcome⟩ ⟨_, _⟩ same
  cases same
  rfl

/-! ## What a run preserves -/

/-- Slots belong to the analyzers in their order, hold outcomes of their own analyzers only, and
nobody has been skipped while the flag is not set. -/
structure Tracks (root : Node) (analyzers : List Analyzer) (progress : Progress) : Prop where
  owners : progress.slots.map (·.analyzer) = analyzers
  genuine : ∀ slot ∈ progress.slots, ∀ outcome ∈ slot.outcome,
    ∃ started, outcome = Turn.outcome root ⟨slot.analyzer, started⟩
  unskipped : progress.cancelled = false → ∀ slot ∈ progress.slots, slot.outcome ≠ some .skipped

variable {root : Node} {analyzers : List Analyzer} {progress before after : Progress}
  {event : Event} {events : List Event}

theorem start_tracks (root : Node) (cancelled : Bool) (analyzers : List Analyzer) :
    Tracks root analyzers (start cancelled analyzers) where
  owners := by
    rw [start, List.map_map]
    exact List.map_id' analyzers
  genuine := by simp [start]
  unskipped := by simp [start]

theorem Step.tracks (step : Step root before event after) (tracks : Tracks root analyzers before) :
    Tracks root analyzers after := by
  cases step with
  | cancel => exact ⟨tracks.owners, tracks.genuine, nofun⟩
  | @pick position analyzer waiting =>
      refine ⟨?_, ?_, ?_⟩
      · rw [← tracks.owners]
        apply List.ext_getElem?
        intro other
        by_cases here : position = other
        · subst here
          obtain ⟨inside, found⟩ := List.getElem?_eq_some_iff.mp waiting
          simp [inside, found]
        · simp [List.getElem?_set_ne here]
      · intro slot member outcome present
        rcases List.mem_or_eq_of_mem_set member with earlier | rfl
        · exact tracks.genuine slot earlier outcome present
        · exact ⟨_, (Option.mem_some.mp present).symm⟩
      · intro clear slot member
        rcases List.mem_or_eq_of_mem_set member with earlier | rfl
        · exact tracks.unskipped clear slot earlier
        · have unset : before.cancelled = false := clear
          simp [unset, Turn.outcome, Linter.outcomeOf_ne_skipped]

theorem Runs.tracks (runs : Runs root before events after)
    (tracks : Tracks root analyzers before) : Tracks root analyzers after := by
  induction runs with
  | done => exact tracks
  | step first _ ih => exact ih (first.tracks tracks)

/-! ## Runs that come to an end -/

theorem Step.keeps (step : Step root before event after) {position : Nat} {slot : Slot}
    (present : before.slots[position]? = some slot) (full : slot.outcome.isSome = true) :
    after.slots[position]? = some slot := by
  cases step with
  | cancel => exact present
  | @pick other analyzer waiting =>
      have different : other ≠ position := by
        rintro rfl
        rw [waiting] at present
        cases present
        cases full
      rw [List.getElem?_set_ne different, present]

theorem Runs.keeps (runs : Runs root before events after) {position : Nat} {slot : Slot}
    (present : before.slots[position]? = some slot) (full : slot.outcome.isSome = true) :
    after.slots[position]? = some slot := by
  induction runs with
  | done => exact present
  | step first _ ih => exact ih (first.keeps present full)

theorem Runs.fills (runs : Runs root before events after) {position : Nat}
    (picked : .pick position ∈ events) :
    ∃ slot, after.slots[position]? = some slot ∧ slot.outcome.isSome = true := by
  induction runs with
  | done => cases picked
  | @step before between after event events first others ih =>
      rcases List.mem_cons.mp picked with rfl | later
      · cases first with
        | @pick _ analyzer waiting =>
            refine ⟨_, others.keeps (List.getElem?_set_self ?_) rfl, rfl⟩
            exact (List.getElem?_eq_some_iff.mp waiting).1
      · exact ih later

theorem exists_runs {events : List Event} {progress : Progress} (once : (picks events).Nodup)
    (waiting : ∀ position ∈ picks events,
      ∃ analyzer, progress.slots[position]? = some { analyzer }) :
    ∃ finish, Runs root progress events finish := by
  induction events generalizing progress with
  | nil => exact ⟨progress, .done progress⟩
  | cons event events ih =>
      cases event with
      | cancel =>
          obtain ⟨finish, runs⟩ := @ih { progress with cancelled := true } once waiting
          exact ⟨finish, .step (.cancel progress) runs⟩
      | pick position =>
          obtain ⟨notLater, once⟩ := List.nodup_cons.mp once
          obtain ⟨analyzer, found⟩ := waiting position List.mem_cons_self
          have others : ∀ other ∈ picks events, ∃ owner,
              (progress.slots.set position
                ⟨analyzer, some (Turn.outcome root ⟨analyzer, !progress.cancelled⟩)⟩)[other]? =
                some { analyzer := owner } := by
            intro other later
            have different : position ≠ other := fun same => notLater (same ▸ later)
            obtain ⟨owner, present⟩ := waiting other (List.mem_cons_of_mem _ later)
            exact ⟨owner, (List.getElem?_set_ne different).trans present⟩
          obtain ⟨finish, runs⟩ := @ih { progress with slots := _ } once others
          exact ⟨finish, .step (.pick found) runs⟩

theorem exists_runs_start (root : Node) (cancelled : Bool) (analyzers : List Analyzer)
    (each : (picks events).Perm (List.range analyzers.length)) :
    ∃ finish, Runs root (start cancelled analyzers) events finish := by
  refine exists_runs (each.nodup_iff.mpr List.nodup_range) ?_
  intro position picked
  have inside : position < analyzers.length := List.mem_range.mp (each.mem_iff.mp picked)
  exact ⟨analyzers[position], by simp [start, inside]⟩

/-! ## What the outcomes amount to -/

open Linter Turn

theorem exists_filled (full : ∀ slot ∈ progress.slots, slot.outcome.isSome = true) :
    ∃ outcomes, progress.slots = filled outcomes := by
  refine ⟨progress.slots.map fun slot => (slot.analyzer, slot.outcome.getD .skipped), ?_⟩
  rw [filled, List.map_map]
  conv_lhs => rw [← List.map_id progress.slots]
  apply List.map_congr_left
  rintro ⟨analyzer, outcome⟩ member
  obtain ⟨outcome, rfl⟩ := Option.isSome_iff_exists.mp (full _ member)
  rfl

theorem Runs.exists_outcomes {cancelled : Bool}
    (runs : Runs root (start cancelled analyzers) events after)
    (picked : ∀ position < analyzers.length, .pick position ∈ events) :
    ∃ outcomes, after.slots = filled outcomes := by
  apply exists_filled
  intro slot member
  obtain ⟨position, inside, rfl⟩ := List.getElem_of_mem member
  have owners := (runs.tracks (start_tracks root cancelled analyzers)).owners
  have count : after.slots.length = analyzers.length := by simpa using congrArg List.length owners
  obtain ⟨slot, found, full⟩ := runs.fills (picked position (count ▸ inside))
  rw [List.getElem?_eq_getElem inside] at found
  cases found
  exact full

theorem mem_slots {outcomes : List (Analyzer × Outcome)} (full : progress.slots = filled outcomes)
    {position : Nat} {entry : Analyzer × Outcome} (found : outcomes[position]? = some entry) :
    ⟨entry.1, some entry.2⟩ ∈ progress.slots := by
  rw [full]
  exact List.mem_map.mpr ⟨entry, List.mem_of_getElem? found, rfl⟩

theorem Tracks.outcomes_eq {outcomes : List (Analyzer × Outcome)}
    (tracks : Tracks root analyzers progress) (full : progress.slots = filled outcomes) :
    outcomes = (sideBySide (!skips outcomes ·) analyzers).map (result root) := by
  have owners : analyzers = outcomes.map (·.1) := by
    rw [← tracks.owners, full, filled, List.map_map]
    rfl
  apply List.ext_getElem?
  intro position
  rw [owners]
  simp only [sideBySide, List.getElem?_map, List.getElem?_zipIdx]
  cases found : outcomes[position]? with
  | none => rfl
  | some entry =>
      obtain ⟨started, left⟩ := tracks.genuine _ (mem_slots full found) entry.2 rfl
      have skipped : skips outcomes position = !started := by
        cases started with
        | true => simp [skips, found, left, outcome, outcomeOf_ne_skipped]
        | false => simp [skips, found, left, outcome]
      simp [result, skipped, ← left]

theorem Tracks.skips_eq_false {outcomes : List (Analyzer × Outcome)}
    (tracks : Tracks root analyzers progress) (full : progress.slots = filled outcomes)
    (clear : progress.cancelled = false) (position : Nat) : skips outcomes position = false := by
  cases found : outcomes[position]? with
  | none => simp [skips, found]
  | some entry =>
      have unskipped := tracks.unskipped clear _ (mem_slots full found)
      simpa [skips, found] using unskipped

/-- Whatever the order, the findings are those of the analyzers that were not skipped, and one more
failure that names the others. If nobody sets the flag, they are those of analyzers that run one
after another. -/
theorem findings_independent_of_schedule (root : Node) (analyzers : List Analyzer)
    (fileName : String) :
    (∀ cancelled events, (picks events).Perm (List.range analyzers.length) →
      ∃ finish, Runs root (start cancelled analyzers) events finish) ∧
    ∀ cancelled events finish, Runs root (start cancelled analyzers) events finish →
      (∀ position < analyzers.length, .pick position ∈ events) →
      ∃ outcomes, finish.slots = filled outcomes ∧
        merge fileName outcomes = .ofContributions fileName
          (contributions root (sideBySide (!skips outcomes ·) analyzers)) ∧
        (finish.cancelled = false →
          (∀ analyzer ∈ analyzers, (analyzer.inspect root).cancels = false) →
          merge fileName outcomes = merge fileName (run root false analyzers).1) := by
  constructor
  · intro cancelled events each
    exact exists_runs_start root cancelled analyzers each
  · intro cancelled events finish runs picked
    obtain ⟨outcomes, full⟩ := runs.exists_outcomes picked
    have tracks := runs.tracks (start_tracks root cancelled analyzers)
    have merged : merge fileName outcomes = .ofContributions fileName
        (contributions root (sideBySide (!skips outcomes ·) analyzers)) := by
      rw [← merge_turns, ← tracks.outcomes_eq full]
    refine ⟨outcomes, full, merged, ?_⟩
    intro clear uncancelled
    have started : (fun position => !skips outcomes position) = fun _ => true := by
      funext position
      simp [tracks.skips_eq_false full clear position]
    rw [merged, started, sideBySide_all, run_eq_turns, inOrder_of_uncancelled uncancelled,
      merge_turns]

open Sample in
theorem findings_independent_of_schedule_backwards :
    (∃ finish, Runs root (start false [faulty, finishing, failing])
        [.pick 2, .pick 1, .pick 0] finish ∧ finish.cancelled = false ∧
      ∃ outcomes, finish.slots = filled outcomes ∧
        merge "x.cs" outcomes = merge "x.cs" (run root false [faulty, finishing, failing]).1) ∧
    ∃ finish, Runs root (start false [faulty, finishing, failing])
        [.pick 2, .pick 1, .cancel, .pick 0] finish ∧
      ∃ outcomes, finish.slots = filled outcomes ∧
        merge "x.cs" outcomes =
          { fileName := "x.cs"
            categories :=
              [{ name := "Size"
                 issues :=
                  [{ rule := .emptyCatch, description := "remark", category := "Size" }] },
               { name := "Error"
                 issues :=
                  [{ rule := .analyzerFault
                     description := "Analyzer 'failing' failed: outer: inner"
                     passed := false
                     suggestion := "Report this failure together with the analyzed source"
                     snippet := "failing"
                     category := "Error"
                     detail :=
                      "**Analyzer failure**\n- Analyzer: `failing`\n- Error: outer: inner" },
                   { rule := .cancelled
                     description := "Analysis cancelled before: faulty"
                     passed := false
                     suggestion := "Run the analysis again to get a complete report"
                     category := "Error"
                     detail := "**Analysis cancelled**\n- Skipped: faulty" }] }] } := by
  obtain ⟨-, decided⟩ := findings_independent_of_schedule root [faulty, finishing, failing] "x.cs"
  have uncancelled : ∀ analyzer ∈ [faulty, finishing, failing],
      (analyzer.inspect root).cancels = false := by
    simp [failing, faulty, finishing, scripted]
  constructor
  · have runs : Runs root (start false [faulty, finishing, failing])
        [.pick 2, .pick 1, .pick 0] _ :=
      .step (.pick rfl) (.step (.pick rfl) (.step (.pick rfl) (.done _)))
    obtain ⟨outcomes, full, -, same⟩ := decided _ _ _ runs (by decide)
    exact ⟨_, runs, rfl, outcomes, full, same rfl uncancelled⟩
  · have runs : Runs root (start false [faulty, finishing, failing])
        [.pick 2, .pick 1, .cancel, .pick 0] _ :=
      .step (.pick rfl) (.step (.pick rfl) (.step (.cancel _) (.step (.pick rfl) (.done _))))
    obtain ⟨outcomes, full, merged, -⟩ := decided _ _ _ runs (by decide)
    refine ⟨_, runs, outcomes, full, ?_⟩
    have left : [(faulty, .skipped), (finishing, outcomeOf (finishing.inspect root)),
        (failing, outcomeOf (failing.inspect root))] = outcomes := filled_injective full
    rw [merged, ← left]
    rfl

end Progress

end SharpLint
