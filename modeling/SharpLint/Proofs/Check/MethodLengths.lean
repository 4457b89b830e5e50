import SharpLint.Check.Size
import SharpLint.Proofs.Source.Positions
import SharpLint.Proofs.Syntax.DeclaredNames

/-!
# Lengths of methods

The length of a method is read off the lines of two spans. It is the number of lines of the source
from the start of the method to the end of its body (`lineCount_eq_extent`): the line ends between
two offsets are what separates their lines (`lineAt_add_lineEnds`), and a node of a converted tree
takes its span, and those of its children, from a node of the concrete tree with its children
(`exists_parts`). What is reported follows from that number and the number of parameters
(`methods_reported_by_extent`).
-/

namespace SharpLint

/-! ## Lines between two offsets -/

namespace Source

def lineEnds (source : Source) (start stop : Nat) : Nat :=
  ((source.bytes.drop start).take (stop - start)).count 10

theorem lineAt_add_lineEnds (source : Source) {start stop : Nat} (ordered : start ≤ stop) :
    source.lineAt start + source.lineEnds start stop = source.lineAt stop := by
  obtain ⟨more, rfl⟩ := Nat.exists_eq_add_of_le ordered
  simp only [lineAt, position_eq_byCounting, positionByCounting, lineEnds, List.take_add,
    List.count_append, Nat.add_sub_cancel_left]
  omega

theorem lineEnds_le_length (source : Source) (start stop : Nat) :
    source.lineEnds start stop ≤ source.bytes.length := by
  apply Nat.le_trans List.count_le_length
  rw [List.length_take, List.length_drop]
  omega

end Source

/-! ## Converted trees -/

namespace Concrete

/-- Every node starts before it ends, and its children lie inside it. -/
def Nested (tree : Concrete) : Prop :=
  ∀ node ∈ tree.preorder, node.label.start ≤ node.label.stop ∧
    ∀ child ∈ node.children,
      node.label.start ≤ child.label.start ∧ child.label.stop ≤ node.label.stop

instance (tree : Concrete) : Decidable tree.Nested :=
  inferInstanceAs (Decidable (∀ node ∈ tree.preorder, _))

variable {source : Source} {place : Place} {tree : Concrete} {inner outer : Node}

theorem Becomes.span_eq {child : Concrete} (becomes : child.Becomes source inner) :
    inner.span = source.spanOf child := by
  cases becomes with
  | name => rfl
  | converted place =>
      cases unit : child.isUnit with
      | true =>
          obtain ⟨kind, leaf⟩ : ∃ kind, child.convert source place =
              .leaf kind (source.spanOf child) (source.textOf child) := convert_of_unit unit
          rw [leaf]
          rfl
      | false =>
          rw [convert_of_parts unit]
          exact span_syntaxLabel source place child

theorem exists_parts (within : outer.Within (tree.convert source place))
    (member : inner ∈ outer.children) :
    ∃ node : Concrete, node.Within tree ∧ outer.span = source.spanOf node ∧
      ∃ child ∈ node.children, inner.span = source.spanOf child := by
  obtain ⟨node, below, ⟨kind, rfl⟩ | ⟨place, parts, rfl⟩⟩ := exists_origin_of_within within
  · cases member
  · rw [convert_of_parts parts] at member
    obtain ⟨child, isChild, becomes⟩ := exists_becomes_of_mem member
    exact ⟨node, below, (Becomes.converted place).span_eq, child, isChild, becomes.span_eq⟩

theorem Nested.spans (nested : tree.Nested) (within : outer.Within (tree.convert source place))
    (member : inner ∈ outer.children) :
    outer.span.startByte ≤ inner.span.endByte ∧
      outer.span.startLine = source.lineAt outer.span.startByte ∧
      inner.span.endLine = source.lineAt inner.span.endByte := by
  obtain ⟨node, below, outerSpan, child, isChild, innerSpan⟩ := exists_parts within member
  obtain ⟨-, inside⟩ := nested node (Tree.mem_preorder.mpr below)
  have under : child.Within tree := .inr (Tree.Below.trans_within (.child isChild) below)
  obtain ⟨ordered, -⟩ := nested child (Tree.mem_preorder.mpr under)
  rw [outerSpan, innerSpan]
  exact ⟨Nat.le_trans (inside child isChild).1 ordered, rfl, rfl⟩

end Concrete

namespace Check.Size

/-- The number of lines from the start of a method to the end of its body: one, and one more for
every line end in between. A method without a body has one line. -/
def extent (source : Source) (method : Node) : Nat :=
  match method.body? with
  | none => 1
  | some body => 1 + source.lineEnds method.span.startByte body.span.endByte

/-- What is counted of a method, and how much of it the rule allows. -/
structure Measurement where
  method : Node
  rule : Rule
  count : Nat
  limit : Nat

def Measurement.exceeds (measurement : Measurement) : Bool := measurement.limit < measurement.count

def measurements (source : Source) (limits : SizeLimits) (method : Node) : List Measurement :=
  [{ method, rule := .methodTooLong, count := extent source method, limit := limits.maxLines },
   { method, rule := .tooManyParameters, count := method.label.parameters.length
     limit := limits.maxParameters }]

/-- The issue is a failure at the method, and says what was counted. -/
structure Reports (measurement : Measurement) (issue : Issue) : Prop where
  rule : issue.rule = measurement.rule
  failing : issue.passed = false
  line : issue.line = measurement.method.anchor.startLine
  column : issue.column = measurement.method.anchor.startColumn
  snippet : issue.snippet = measurement.method.name
  tooLong : measurement.rule = .methodTooLong → issue.description =
    s!"Method '{issue.snippet}' has {measurement.count} lines (> {measurement.limit})"
  tooMany : measurement.rule = .tooManyParameters → issue.description =
    s!"Method '{issue.snippet}' has {measurement.count} parameters (> {measurement.limit})"

variable {source : Source} {place : Place} {tree : Concrete} {method : Node}

theorem lineCount_of_no_body (none : method.body? = none) : lineCount method = 1 := by
  rw [lineCount, none]
  simp [UInt64.size]

theorem lineCount_of_body (nested : tree.Nested) (counted : source.bytes.length + 1 < UInt64.size)
    (within : method.Within (tree.convert source place)) {body : Node}
    (found : method.body? = some body) :
    method.span.startLine ≤ body.span.endLine ∧
      lineCount method = 1 + source.lineEnds method.span.startByte body.span.endByte := by
  obtain ⟨ordered, startLine, endLine⟩ := nested.spans within (List.mem_of_find?_eq_some found)
  have lines := source.lineAt_add_lineEnds ordered
  have few := source.lineEnds_le_length method.span.startByte body.span.endByte
  rw [← startLine, ← endLine] at lines
  have small : body.span.endLine - method.span.startLine + 1 < UInt64.size := by omega
  rw [lineCount, found, Option.map_some, Option.getD_some, Nat.mod_eq_of_lt small]
  omega

theorem lineCount_eq_extent (nested : tree.Nested) (counted : source.bytes.length + 1 < UInt64.size)
    (within : method.Within (tree.convert source place)) :
    lineCount method = extent source method := by
  unfold extent
  split
  · rename_i none
    exact lineCount_of_no_body none
  · rename_i body found
    exact (lineCount_of_body nested counted within found).2

theorem Reports.forall₂_filter {measurement : Measurement} {issue : Issue}
    (reports : Reports measurement issue) :
    List.Forall₂ Reports ([measurement].filter Measurement.exceeds)
      (if measurement.limit < measurement.count then [issue] else []) := by
  by_cases exceeded : measurement.limit < measurement.count
  · simpa [Measurement.exceeds, exceeded] using reports
  · simp [Measurement.exceeds, exceeded]

theorem methodIssues_reports (limits : SizeLimits)
    (measured : lineCount method = extent source method) :
    List.Forall₂ Reports ((measurements source limits method).filter Measurement.exceeds)
      (methodIssues limits method) := by
  rw [measurements, ← List.singleton_append, List.filter_append, methodIssues, measured]
  apply List.rel_append
  · apply Reports.forall₂_filter
    exact ⟨rfl, rfl, rfl, rfl, rfl, fun _ => rfl, by simp⟩
  · apply Reports.forall₂_filter
    exact ⟨rfl, rfl, rfl, rfl, rfl, by simp, fun _ => rfl⟩

/-- A method with a body is as long as the source has lines from the start of the method to the end
of the body, and any other has one line. The methods are reported in pre-order: for being longer
than allowed, then for having more parameters than allowed. Lines are counted in 64 bits, enough for
every source whose offsets are numbers of 64 bits. -/
theorem methods_reported_by_extent (source : Source) (tree : Concrete) (place : Place)
    (limits : SizeLimits) (nested : tree.Nested)
    (counted : source.bytes.length + 1 < UInt64.size) :
    let root := tree.convert source place
    (∀ method : Node, method.Within root → method.kind = .methodDecl →
      (∀ body, method.body? = some body →
        method.span.startLine ≤ body.span.endLine ∧
        lineCount method = 1 + source.lineEnds method.span.startByte body.span.endByte) ∧
      (method.body? = none → lineCount method = 1)) ∧
    List.Forall₂ Reports
      ((root.methods.flatMap (measurements source limits)).filter Measurement.exceeds)
      (issues limits root) := by
  intro root
  constructor
  · intro method within _
    exact ⟨fun body found => lineCount_of_body nested counted within found, lineCount_of_no_body⟩
  · rw [issues, List.filter_flatMap]
    apply forall₂_flatMap
    intro method member
    have below := Tree.mem_descendants.mp (List.mem_filter.mp member).1
    exact methodIssues_reports limits (lineCount_eq_extent nested counted (.inr below))

namespace Sample

def functionsSource : Source := { text := "void A(int x)\n\x7b\n\x7d\nvoid B();" }

open Concrete.Sample in
def functions : Concrete :=
  phrase "compilation_unit" 0 27
    [phrase "local_function_statement" 0 17
      [identifier (some "name") 5,
       phrase "parameter_list" 6 13
        [sign "(" 6, phrase "parameter" 7 12 [identifier (some "name") 11], sign ")" 12],
       phrase "block" 14 17 [sign "\x7b" 14, sign "\x7d" 16]],
     phrase "local_function_statement" 18 27 [identifier (some "name") 23, sign ";" 26]]

end Sample

open Size.Sample in
theorem methods_reported_by_extent_short :
    let root := functions.convert functionsSource {}
    let limits : SizeLimits := { maxLines := 2, maxParameters := 0 }
    functions.Nested ∧ functionsSource.bytes.length + 1 < UInt64.size ∧
    root.methods.map (extent functionsSource) = [3, 1] ∧
    (∃ method ∈ root.methods, ∃ body, Node.body? method = some body ∧
      lineCount method =
        1 + functionsSource.lineEnds (Node.span method).startByte (Node.span body).endByte) ∧
    List.Forall₂ Reports
      ((root.methods.flatMap (measurements functionsSource limits)).filter Measurement.exceeds)
      (issues limits root) ∧
    (issues limits root).map (·.rule) = [.methodTooLong, .tooManyParameters] := by
  intro root limits
  have nested : functions.Nested := by decide
  have counted : functionsSource.bytes.length + 1 < UInt64.size := by decide
  obtain ⟨lengths, reports⟩ :=
    methods_reported_by_extent functionsSource functions {} limits nested counted
  have withBody : ∃ method ∈ root.methods, (Node.body? method).isSome := by decide +kernel
  refine ⟨nested, counted, by decide +kernel, ?_, reports, by decide +kernel⟩
  obtain ⟨method, member, hasBody⟩ := withBody
  obtain ⟨body, found⟩ := Option.isSome_iff_exists.mp hasBody
  obtain ⟨below, isMethod⟩ := List.mem_filter.mp member
  have within := Tree.mem_descendants.mp below
  exact ⟨method, member, body, found,
    ((lengths method (.inr within) (of_decide_eq_true isMethod)).1 body found).2⟩

end Check.Size

end SharpLint
