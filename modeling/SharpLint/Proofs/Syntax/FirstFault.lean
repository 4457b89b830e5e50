import SharpLint.Proofs.Source.Positions
import SharpLint.Proofs.Text.Trimming
import SharpLint.Proofs.Tree.Walks
import SharpLint.Syntax.Parse

/-!
# The first fault of a tree

A tree is refused at its first fault. The search for it goes only into nodes that are flawed, and
yet finds what a search of the whole tree finds (`firstFault?_eq`), since the parser marks every
node around a fault (`Flagged`). A node may be flawed although no fault shows in it, and then the
search goes on behind it.
-/

namespace SharpLint

namespace Concrete

/-- Faults and all nodes around them are flawed. -/
def Flagged (root : Concrete) : Prop :=
  ∀ node ∈ root.preorder,
    (∃ fault ∈ node.preorder, fault.label.missing = true ∨ fault.label.erroneous = true) →
      node.label.flawed = true

instance (root : Concrete) : Decidable root.Flagged :=
  inferInstanceAs (Decidable (∀ node ∈ root.preorder, _))

/-- What is said about a fault, and where. That a node is missing comes before all else. -/
inductive Explains (source : Source) (node : Concrete) : ParseError → Prop where
  | missing (invented : node.label.missing = true) :
      Explains source node
        (.malformed (source.positionByCounting node.label.start) ("missing `" ++ node.kind ++ "`"))
  | unexpected (present : node.label.missing = false) (skipped : node.label.erroneous = true)
      {kept : List Char} (trimmed : Text.Trimmed (source.textOf node).toList kept) :
      Explains source node
        (.malformed (source.positionByCounting node.label.start)
          ("unexpected `" ++ String.ofList (kept.take 40) ++ "`"))

variable {source : Source} {root node : Concrete}

theorem isFault_iff :
    node.isFault = true ↔ node.label.missing = true ∨ node.label.erroneous = true := by
  rw [isFault, Bool.or_eq_true]

theorem Flagged.of_mem_children (flagged : root.Flagged) (member : node ∈ root.children) :
    node.Flagged := by
  intro inner within
  apply flagged
  rw [Tree.mem_preorder] at within ⊢
  exact .inr (within.below member)

theorem Flagged.isFault_eq_false (flagged : root.Flagged) (sound : root.label.flawed = false)
    (within : node ∈ root.preorder) : node.isFault = false := by
  rw [Bool.eq_false_iff]
  intro fault
  have marked := flagged root List.mem_cons_self ⟨node, within, isFault_iff.mp fault⟩
  rw [sound] at marked
  cases marked

theorem Flagged.filter_reached (flagged : root.Flagged) :
    (Tree.reached (fun node => node.label.flawed) root).filter isFault =
      root.preorder.filter isFault := by
  induction root using Tree.induction with
  | node label children ih =>
      cases flawed : label.flawed with
      | true =>
          have same : ∀ child ∈ children,
              (Tree.reached (fun node => node.label.flawed) child).filter isFault =
                child.preorder.filter isFault := by
            intro child isChild
            exact ih child isChild (flagged.of_mem_children isChild)
          rw [Tree.filter_preorder, Tree.reached_eq, if_pos (by exact flawed), List.filter_cons,
            List.filter_flatMap, Tree.children, List.flatMap_congr same]
          split <;> rfl
      | false =>
          have none : (Tree.preorder (.node label children)).filter isFault = [] := by
            rw [List.filter_eq_nil_iff]
            intro node within
            simp [flagged.isFault_eq_false flawed within]
          rw [none, Tree.reached_eq, if_neg (by simp [Tree.label, flawed])]
          exact List.filter_cons_of_neg
            (by simp [flagged.isFault_eq_false flawed List.mem_cons_self])

theorem Flagged.firstFault?_eq (flagged : root.Flagged) :
    root.firstFault? = root.preorder.find? isFault := by
  rw [firstFault?, Tree.Walk.toList_eq, List.flatMap_singleton, ← List.head?_filter,
    ← List.head?_filter, flagged.filter_reached]

theorem explains_faultError (isFault : node.isFault = true) (first : root.firstFault? = some node) :
    Explains source node (root.faultError source) := by
  rw [faultError, first]
  dsimp only [faultMessage]
  rw [source.position_eq_byCounting]
  cases missing : node.label.missing with
  | true => exact .missing missing
  | false =>
      have skipped : node.label.erroneous = true := by
        simpa [Concrete.isFault, missing] using isFault
      exact .unexpected missing skipped (Text.trimmed_trim _)

theorem parse_eq_error_iff {allowPartial : Bool} {error : ParseError} :
    Document.parse { source, tree := some root } allowPartial = .error error ↔
      (root.label.flawed = true ∧ allowPartial = false) ∧ error = root.faultError source := by
  dsimp only [Document.parse]
  by_cases refused : root.label.flawed = true ∧ allowPartial = false
  · simp [refused, eq_comm]
  · rw [if_neg (by simpa using refused)]
    simp [refused]

end Concrete

/-- The search for faults reports the first one of the whole tree. A tree in which none shows is
reported at its start. Whether a tree is refused depends on its root alone. -/
theorem first_fault_reported (source : Source) (root : Concrete) (flagged : root.Flagged) :
    let first := root.preorder.find? fun node : Concrete =>
      node.label.missing || node.label.erroneous
    (∀ node, first = some node → Concrete.Explains source node (root.faultError source)) ∧
    (first = none → root.faultError source = .malformed ⟨1, 1⟩ "syntax error") ∧
    ∀ allowPartial error,
      Document.parse { source, tree := some root } allowPartial = .error error ↔
        (root.label.flawed = true ∧ allowPartial = false) ∧ error = root.faultError source := by
  have searched : root.firstFault? = root.preorder.find? fun node : Concrete =>
      node.label.missing || node.label.erroneous := flagged.firstFault?_eq
  refine ⟨?_, ?_, fun _ _ => Concrete.parse_eq_error_iff⟩
  · intro node first
    apply Concrete.explains_faultError
    · exact Concrete.isFault_iff.mpr (by simpa using List.find?_some first)
    · rw [searched, first]
  · intro none
    rw [Concrete.faultError, searched, none]

namespace Concrete.Sample

def brokenSource : Source := { text := "f(\n  g(x" }

def stray : Concrete :=
  .node { kind := "ERROR", named := true, erroneous := true, flawed := true, start := 5, stop := 8 }
    []

def closing : Concrete :=
  .node { kind := ")", named := false, missing := true, flawed := true, start := 8, stop := 8 } []

def call (arguments : List Concrete) : Concrete :=
  let name : Concrete :=
    .node { kind := "identifier", named := true, flawed := true, start := 0, stop := 1 } []
  let opening : Concrete := .node { kind := "(", named := false, start := 1, stop := 2 } []
  let list : Concrete :=
    .node { kind := "argument_list", named := true, flawed := true, start := 1, stop := 8 }
      (opening :: arguments ++ [closing])
  .node { kind := "compilation_unit", named := true, flawed := true, start := 0, stop := 8 }
    [name, list]

def broken : Concrete := call [stray]

end Concrete.Sample

open Concrete.Sample in
theorem first_fault_reported_broken :
    broken.Flagged ∧
      (broken.preorder.find? fun node => node.label.missing || node.label.erroneous) = some stray ∧
      Concrete.Explains brokenSource stray (broken.faultError brokenSource) ∧
      broken.faultError brokenSource = .malformed ⟨2, 3⟩ "unexpected `g(x`" ∧
    (call []).Flagged ∧
      ((call []).preorder.find? fun node => node.label.missing || node.label.erroneous) =
        some closing ∧
      Concrete.Explains brokenSource closing ((call []).faultError brokenSource) ∧
      (call []).faultError brokenSource = .malformed ⟨2, 6⟩ "missing `)`" := by
  have flagged : broken.Flagged := by decide
  have explains := (first_fault_reported brokenSource broken flagged).1 stray rfl
  have unclosed : (call []).Flagged := by decide
  have alsoExplains := (first_fault_reported brokenSource (call []) unclosed).1 closing rfl
  exact ⟨flagged, rfl, explains, by decide +kernel, unclosed, rfl, alsoExplains, by decide +kernel⟩

end SharpLint
