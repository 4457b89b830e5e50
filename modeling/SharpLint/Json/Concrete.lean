import SharpLint.Json.Basic
import SharpLint.Syntax.Concrete

/-!
# Concrete trees as JSON

A parser hands over a concrete tree as an array of rows in pre-order: kind, marks, field, first
byte, byte past the last, and number of children.
-/

namespace SharpLint.Concrete

/-- The label and the number of children in a row. The marks are bits: named, missing, erroneous
and flawed. -/
def rowOfJson? : Json → Option (Label × Nat)
  | .array [kind, marks, field, start, stop, count] => do
    let marks ← marks.count?
    let label : Label :=
      { kind := ← kind.string?
        named := marks.testBit 0
        missing := marks.testBit 1
        erroneous := marks.testBit 2
        flawed := marks.testBit 3
        field := field.string?
        start := ← start.count?
        stop := ← stop.count? }
    return (label, ← count.count?)
  | _ => none

def ofJson? (value : Json) : Option Concrete := do
  Tree.ofRows? (← (← value.array?).mapM rowOfJson?)

end SharpLint.Concrete
