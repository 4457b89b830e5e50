import SharpLint.Proofs.Source.Positions

/-!
# Covering two spans

The cover of two spans of a source reaches from the start of the first to the end of the last, and
its positions are those of these two offsets, except for the column of its end: that is taken from
the span that starts later, and the other one may end after it (`cover_span`,
`cover_of_nested_ends_inside`). In all but this column, covering is commutative, associative and
idempotent (`cover_reaches_both`).
-/

namespace SharpLint

def Span.stretch (span : Span) : Span := { span with endColumn := 0 }

theorem Span.stretch_cover (a b : Span) :
    (a.cover b).stretch = (a.stretch.cover b.stretch).stretch := by
  by_cases ordered : a.startByte ≤ b.startByte <;> simp [cover, stretch, ordered]

namespace Source

variable {start stop otherStart otherStop : Nat}

def laterStop (start stop otherStart otherStop : Nat) : Nat :=
  if start ≤ otherStart then otherStop else stop

theorem max_lineAt (source : Source) (offset other : Nat) :
    max (source.lineAt offset) (source.lineAt other) = source.lineAt (max offset other) := by
  rcases Nat.le_total offset other with ordered | ordered
  · rw [Nat.max_eq_right ordered, Nat.max_eq_right (source.lineAt_mono ordered)]
  · rw [Nat.max_eq_left ordered, Nat.max_eq_left (source.lineAt_mono ordered)]

theorem cover_span (source : Source) (start stop otherStart otherStop : Nat) :
    (source.span start stop).cover (source.span otherStart otherStop) =
      { source.span (min start otherStart) (max stop otherStop) with
        endColumn := source.columnAt (laterStop start stop otherStart otherStop) } := by
  by_cases ordered : start ≤ otherStart
  · simp [Span.cover, span, laterStop, ordered, max_lineAt, Nat.max_comm]
  · have reversed : otherStart ≤ start := Nat.le_of_not_le ordered
    simp [Span.cover, span, laterStop, ordered, reversed, max_lineAt]

theorem cover_span_of_ordered (source : Source) (starts : start ≤ otherStart)
    (stops : stop ≤ otherStop) :
    (source.span start stop).cover (source.span otherStart otherStop) =
      source.span start otherStop := by
  rw [cover_span, laterStop, if_pos starts, Nat.min_eq_left starts, Nat.max_eq_right stops]
  rfl

theorem cover_span_comm_iff (source : Source) (start stop otherStart otherStop : Nat) :
    (source.span start stop).cover (source.span otherStart otherStop) =
        (source.span otherStart otherStop).cover (source.span start stop) ↔
      start ≠ otherStart ∨ source.columnAt stop = source.columnAt otherStop := by
  rw [cover_span, cover_span, Nat.min_comm otherStart, Nat.max_comm otherStop]
  -- The two orders disagree on which span starts later only if both start at one offset.
  by_cases same : start = otherStart
  · simp [laterStop, same, eq_comm]
  · have later : laterStop otherStart otherStop start stop =
        laterStop start stop otherStart otherStop := by
      unfold laterStop
      split <;> split <;> omega
    simp [later, same]

theorem stretch_cover_span (source : Source) (start stop otherStart otherStop : Nat) :
    ((source.span start stop).cover (source.span otherStart otherStop)).stretch =
      (source.span (min start otherStart) (max stop otherStop)).stretch := by
  rw [cover_span]
  rfl

theorem stretch_cover_assoc (source : Source)
    (start stop otherStart otherStop thirdStart thirdStop : Nat) :
    (((source.span start stop).cover (source.span otherStart otherStop)).cover
        (source.span thirdStart thirdStop)).stretch =
      ((source.span start stop).cover ((source.span otherStart otherStop).cover
        (source.span thirdStart thirdStop))).stretch := by
  rw [Span.stretch_cover, stretch_cover_span, ← Span.stretch_cover, stretch_cover_span,
    Nat.min_assoc, Nat.max_assoc, ← stretch_cover_span, Span.stretch_cover,
    ← stretch_cover_span source otherStart, ← Span.stretch_cover]

/-- The cover of two spans reaches from the first start to the last end; all its positions but the
column of the end are those of these offsets. That column is that of the end of the span that starts
later: it is right if this span ends last, and depends on the order of the spans only if both start
at the same offset. -/
theorem cover_reaches_both (source : Source)
    (start stop otherStart otherStop thirdStart thirdStop : Nat) :
    let a := source.span start stop
    let b := source.span otherStart otherStop
    let c := source.span thirdStart thirdStop
    let union := source.span (min start otherStart) (max stop otherStop)
    let ending := source.columnAt (laterStop start stop otherStart otherStop)
    a.cover b = { union with endColumn := ending } ∧
    (a.cover b = union ↔ ending = union.endColumn) ∧
    (a.cover b = b.cover a ↔ start ≠ otherStart ∨ a.endColumn = b.endColumn) ∧
    ((a.cover b).cover c).stretch = (a.cover (b.cover c)).stretch ∧
    a.cover a = a := by
  intro a b c union ending
  have covered : a.cover b = { union with endColumn := ending } := source.cover_span ..
  refine ⟨covered, ?_, source.cover_span_comm_iff .., source.stretch_cover_assoc .., ?_⟩
  · rw [covered]
    constructor
    · intro same
      exact congrArg Span.endColumn same
    · intro right
      rw [right]
  · exact source.cover_span_of_ordered (Nat.le_refl _) (Nat.le_refl _)

/-- Covering is no union: of two spans of which one lies in the other, the cover ends in the column
in which the inner one ends. It is neither commutative nor associative either. -/
theorem cover_of_nested_ends_inside :
    let source : Source := { text := "class" }
    (source.span 0 5).cover (source.span 1 3) = { source.span 0 5 with endColumn := 4 } ∧
    (source.span 0 5).cover (source.span 1 3) ≠ source.span (min 0 1) (max 5 3) ∧
    (source.span 0 5).cover (source.span 0 3) ≠ (source.span 0 3).cover (source.span 0 5) ∧
    ((source.span 0 1).cover (source.span 4 5)).cover (source.span 2 3) ≠
      (source.span 0 1).cover ((source.span 4 5).cover (source.span 2 3)) := by
  decide +kernel

end Source

end SharpLint
