import Mathlib.Order.Bounds.Basic
import SharpLint.Proofs.Source.Cover
import SharpLint.Proofs.Syntax.DeclaredNames
import SharpLint.Proofs.Syntax.MetNodes

/-!
# Runs of doc comments

The doc comment of a declaration is the longest run of doc comments that goes up from it without a
blank line (`isGreatest_run`). The comments of a run do not overlap, so that together they reach
from the start of the first to the end of the last (`attached_ofRun?`). A function at the top level
is the only part of a statement, and its comment stands above that (`docComment?_placeAt`).
-/

namespace SharpLint

theorem Source.slice_of_le (source : Source) {start stop : Nat} (empty : stop ≤ start) :
    source.slice start stop = "" := by
  rw [Source.slice, Nat.sub_eq_zero_of_le empty]
  cases source.marks[start]?.bind (·.rest) with
  | none => rfl
  | some rest => simp [Source.takeBytes]

namespace DocComment

/-- The node is a doc comment that ends on the line before the next element or later. -/
structure Adjoins (source : Source) (next comment : Concrete) : Prop where
  isComment : comment.isComment = true
  marked : "///".toList <+: (source.textOf comment).toList ∨
    "/**".toList <+: (source.textOf comment).toList
  near : source.lineAt next.label.start ≤ source.lineAt comment.label.stop + 1

/-- The elements are listed backwards. So many after the first adjoin the one listed before them. -/
def RunsUp (source : Source) (elements : List Concrete) (count : Nat) : Prop :=
  ∀ index < count, ∃ next comment, elements[index]? = some next ∧
    elements[index + 1]? = some comment ∧ Adjoins source next comment

/-- What is attached to a declaration if so many of the siblings before it make up the run. -/
structure Attached (source : Source) (before : List Concrete) (count : Nat)
    (attached : Option Token) : Prop where
  none_iff : attached = none ↔ count = 0
  token : ∀ comment, attached = some comment → ∃ first last : Concrete,
    before[count - 1]? = some first ∧ before[0]? = some last ∧
    comment.text = "\n".intercalate ((before.take count).reverse.map source.textOf) ∧
    comment.span = source.span first.label.start last.label.stop

variable {source : Source} {next comment previous : Concrete} {before earlier : List Concrete}
  {count : Nat}

/-! ## Runs -/

theorem adjoins_iff :
    (comment.isComment && isDoc (source.textOf comment) &&
        decide (source.lineAt next.label.start - source.lineAt comment.label.stop ≤ 1)) = true ↔
      Adjoins source next comment := by
  simp only [isDoc, Bool.and_eq_true, Bool.or_eq_true, List.isPrefixOf_iff_prefix,
    decide_eq_true_eq, Nat.sub_le_iff_le_add']
  exact ⟨fun ⟨⟨isComment, marked⟩, near⟩ => ⟨isComment, marked, near⟩,
    fun ⟨isComment, marked, near⟩ => ⟨⟨isComment, marked⟩, near⟩⟩

theorem Adjoins.start_le_stop (adjoins : Adjoins source next comment) :
    comment.label.start ≤ comment.label.stop := by
  by_contra reversed
  have empty : source.textOf comment = "" := source.slice_of_le (by omega)
  have marked := adjoins.marked
  rw [empty] at marked
  rcases marked with slashes | stars
  · exact absurd slashes (by decide)
  · exact absurd stars (by decide)

theorem runsUp_zero (source : Source) (elements : List Concrete) : RunsUp source elements 0 := by
  intro index impossible
  cases impossible

theorem runsUp_succ :
    RunsUp source (next :: previous :: earlier) (count + 1) ↔
      Adjoins source next previous ∧ RunsUp source (previous :: earlier) count := by
  rw [RunsUp, Nat.forall_lt_succ_left]
  simp [RunsUp]

theorem RunsUp.eq_zero (runs : RunsUp source [next] count) : count = 0 := by
  by_contra positive
  obtain ⟨_, _, -, absent, -⟩ := runs 0 (by omega)
  cases absent

theorem isGreatest_run (source : Source) (next : Concrete) (before : List Concrete) :
    IsGreatest {count | RunsUp source (next :: before) count}
      (run source (source.lineAt next.label.start) before).length := by
  -- The element that the next comment has to adjoin moves up with every comment of the run.
  induction before generalizing next with
  | nil => exact ⟨runsUp_zero source _, fun count runs => runs.eq_zero.le⟩
  | cons previous earlier ih =>
      by_cases adjoins : Adjoins source next previous
      · obtain ⟨runs, greatest⟩ := ih previous
        rw [run, if_pos (adjoins_iff.mpr adjoins), List.length_cons]
        refine ⟨runsUp_succ.mpr ⟨adjoins, runs⟩, ?_⟩
        intro count runs
        cases count with
        | zero => exact Nat.zero_le _
        | succ count => exact Nat.succ_le_succ (greatest (runsUp_succ.mp runs).2)
      · rw [run, if_neg (adjoins_iff.not.mpr adjoins)]
        refine ⟨runsUp_zero source _, ?_⟩
        intro count runs
        cases count with
        | zero => exact Nat.le_refl _
        | succ count => exact absurd (runsUp_succ.mp runs).1 adjoins

theorem run_isPrefix (source : Source) (line : Nat) (before : List Concrete) :
    run source line before <+: before := by
  fun_induction run source line before with
  | case1 => exact List.nil_prefix
  | case2 _ _ _ _ ih => exact List.cons_prefix_cons.mpr ⟨rfl, ih⟩
  | case3 => exact List.nil_prefix

/-! ## The comment of a run -/

theorem RunsUp.start_le_stop (runs : RunsUp source (next :: before) count) {index : Nat}
    (inRun : index < count) (found : before[index]? = some comment) :
    comment.label.start ≤ comment.label.stop := by
  obtain ⟨_, _, -, same, adjoins⟩ := runs index inRun
  rw [List.getElem?_cons_succ, found] at same
  cases same
  exact adjoins.start_le_stop

theorem RunsUp.ordered_ends (runs : RunsUp source (next :: before) (count + 1))
    (ordered : before.Pairwise fun later earlier => earlier.label.stop ≤ later.label.start)
    {first last : Concrete} (isFirst : before[count]? = some first)
    (isLast : before[0]? = some last) :
    first.label.start ≤ last.label.start ∧ first.label.stop ≤ last.label.stop := by
  have firstRange := runs.start_le_stop (Nat.lt_succ_self count) isFirst
  have lastRange := runs.start_le_stop (Nat.succ_pos count) isLast
  cases count with
  | zero =>
      cases isFirst.symm.trans isLast
      exact ⟨Nat.le_refl _, Nat.le_refl _⟩
  | succ count =>
      obtain ⟨inside, rfl⟩ := List.getElem?_eq_some_iff.mp isFirst
      obtain ⟨alsoInside, rfl⟩ := List.getElem?_eq_some_iff.mp isLast
      have apart := List.pairwise_iff_getElem.mp ordered _ _ alsoInside inside (Nat.succ_pos count)
      omega

theorem attached_ofRun? (runs : RunsUp source (next :: before) count)
    (bounded : count ≤ before.length)
    (ordered : before.Pairwise fun later earlier => earlier.label.stop ≤ later.label.start) :
    Attached source before count (ofRun? source (before.take count)) := by
  cases count with
  | zero => exact ⟨by simp [ofRun?], by simp [ofRun?]⟩
  | succ count =>
      have isFirst : before[count]? = some before[count] := List.getElem?_eq_getElem bounded
      have isLast : before[0]? = some before[0] := List.getElem?_eq_getElem (by omega)
      have final : (before.take (count + 1)).getLast? = some before[count] := by
        simp [List.getLast?_take, isFirst]
      have head : (before.take (count + 1)).head? = some before[0] := by
        simp [List.head?_eq_getElem?, isLast]
      obtain ⟨starts, stops⟩ := runs.ordered_ends ordered isFirst isLast
      rw [ofRun?, final, head]
      refine ⟨by simp, ?_⟩
      rintro comment ⟨⟩
      exact ⟨before[count], before[0], isFirst, isLast, rfl,
        source.cover_span_of_ordered starts stops⟩

theorem attached_above? (source : Source) (anchor : Concrete)
    (ordered : before.Pairwise fun later earlier => earlier.label.stop ≤ later.label.start) :
    ∃ count, IsGreatest {count | RunsUp source (anchor :: before) count} count ∧
      Attached source before count (above? source anchor.label.start before) := by
  have greatest := isGreatest_run source anchor before
  have isPrefix := run_isPrefix source (source.lineAt anchor.label.start) before
  refine ⟨_, greatest, ?_⟩
  rw [above?, List.prefix_iff_eq_take.mp isPrefix, List.length_take_of_le isPrefix.length_le]
  exact attached_ofRun? greatest.1 isPrefix.length_le ordered

end DocComment

namespace Concrete

def Ordered (tree : Concrete) : Prop :=
  ∀ node ∈ tree.preorder, node.children.Pairwise fun first second =>
    first.label.stop ≤ second.label.start

instance (tree : Concrete) : Decidable tree.Ordered :=
  inferInstanceAs (Decidable (∀ node ∈ tree.preorder, _))

/-- The place above which the doc comment of a declaration stands: that of its parent if the
declaration is a statement at the top level, else its own. -/
def anchorPath (tree : Concrete) (path : List Nat) : List Nat :=
  match tree.ancestors path with
  | [] => path
  | parent :: _ => if parent.label.kind = "global_statement" then path.dropLast else path

variable {source : Source} {tree node : Concrete} {path : List Nat}

theorem Ordered.siblingsBefore (ordered : tree.Ordered) (path : List Nat) :
    (tree.siblingsBefore path).Pairwise fun later earlier =>
      earlier.label.stop ≤ later.label.start := by
  rw [Tree.siblingsBefore]
  split
  · rename_i index parent _ found
    have within := Tree.mem_preorder.mpr (Tree.within_of_at? found)
    rw [List.pairwise_reverse]
    exact (ordered parent within).sublist (List.take_sublist _ _)
  · exact .nil

theorem docComment?_placeAt (source : Source) (found : tree.at? path = some node) :
    ∃ anchor, tree.at? (tree.anchorPath path) = some anchor ∧
      node.docComment? source (placeAt source {} path tree) =
        DocComment.above? source anchor.label.start
          (tree.siblingsBefore (tree.anchorPath path)) := by
  obtain rfl | ⟨front, index, parent, rfl, above, isChild⟩ := Tree.eq_nil_or_concat_of_at? found
  · cases found
    exact ⟨tree, rfl, rfl⟩
  · rw [anchorPath, Tree.ancestors_concat above, docComment?, parent_placeAt source found above,
      before_placeAt source found]
    dsimp only
    by_cases wrapped : parent.label.kind = "global_statement"
    · rw [if_pos wrapped, if_pos wrapped, List.dropLast_concat]
      exact ⟨parent, above, rfl⟩
    · rw [if_neg wrapped, if_neg wrapped]
      exact ⟨node, found, rfl⟩

end Concrete

/-- Every node of a converted tree comes from a node that conversion meets, in the same order. If
that is a declaration, its doc comment is the longest run of doc comments that goes up from its
anchor. -/
theorem doc_comment_is_adjacent_run (source : Source) (tree : Concrete) (ordered : tree.Ordered) :
    List.Forall₂ (fun path (converted : Node) => ∃ node : Concrete,
        tree.at? path = some node ∧ converted.span = source.spanOf node ∧
        (node.IsDeclaration → ∃ anchor, tree.at? (tree.anchorPath path) = some anchor ∧
          ∃ count, IsGreatest {count | DocComment.RunsUp source
              (anchor :: tree.siblingsBefore (tree.anchorPath path)) count} count ∧
            DocComment.Attached source (tree.siblingsBefore (tree.anchorPath path)) count
              converted.label.docComment))
      tree.metPaths (tree.convert source {}).preorder := by
  refine (Concrete.arises_convert source {} tree).imp ?_
  intro path converted arises
  obtain ⟨node, found, -⟩ := id arises
  refine ⟨node, found, arises.span_eq found, ?_⟩
  intro declaration
  obtain ⟨-, docComment⟩ := arises.of_isDeclaration found declaration
  obtain ⟨anchor, isAnchor, above⟩ := Concrete.docComment?_placeAt source found
  rw [docComment, above]
  exact ⟨anchor, isAnchor, DocComment.attached_above? source anchor (ordered.siblingsBefore _)⟩

namespace Concrete.Sample

def documentedSource : Source := { text := "/// a\n// x\n/** c */\n/// d\nint M();" }

def function : Concrete := phrase "local_function_statement" 26 34 [sign ";" 33]

def documented : Concrete :=
  phrase "compilation_unit" 0 34
    [phrase "comment" 0 5 [], phrase "comment" 6 10 [], phrase "comment" 11 19 [],
     phrase "comment" 20 25 [], phrase "global_statement" 26 34 [function]]

end Concrete.Sample

open Concrete.Sample in
theorem doc_comment_is_adjacent_run_documented :
    let converted := documented.convert documentedSource {}
    let before := documented.siblingsBefore [4]
    documented.Ordered ∧ [4, 0] ∈ documented.metPaths ∧ function.IsDeclaration ∧
      documented.anchorPath [4, 0] = [4] ∧
      (∃ inner ∈ converted.preorder, ∃ anchor, documented.at? [4] = some anchor ∧
        ∃ count, IsGreatest {count | DocComment.RunsUp documentedSource (anchor :: before) count}
            count ∧
          DocComment.Attached documentedSource before count inner.label.docComment) ∧
      (converted.preorder.filterMap fun node => node.label.docComment) =
        [⟨"/** c */\n/// d", documentedSource.span 11 25⟩] := by
  intro converted before
  have ordered : documented.Ordered := by decide
  have met : [4, 0] ∈ documented.metPaths := by decide
  have isDeclaration : function.IsDeclaration := ⟨by decide, by decide, nofun⟩
  have isAnchor : documented.anchorPath [4, 0] = [4] := by decide
  obtain ⟨inner, present, node, found, -, attached⟩ :=
    exists_related_of_mem (doc_comment_is_adjacent_run documentedSource documented ordered).flip met
  cases found
  rw [isAnchor] at attached
  exact ⟨ordered, met, isDeclaration, isAnchor, ⟨inner, present, attached isDeclaration⟩,
    by decide +kernel⟩

end SharpLint
