import SharpLint.Proofs.Check.Placement
import SharpLint.Proofs.Check.Reports
import SharpLint.Proofs.Tree.Ancestry

/-!
# Rethrows are reported once

A statement that throws a caught variable again may stand in several clauses that bind a variable of
this name. Each of them finds it, in pre-order of the clauses (`pairwise_placedRethrows`), and the
first one reports it: what has been found before is told by the byte where it starts, and throw
statements that start at the same byte are one (`path_eq_of_startByte_eq`).
-/

namespace SharpLint.Check.Exceptions

/-- A statement that throws a caught variable again, with the paths to the clause that catches it
and to the statement. -/
structure Rethrow where
  outer : List Nat
  path : List Nat
  caught : String
  statement : Node

namespace Rethrow

/-- The rethrow is one in the tree: there is a clause below the root that binds the variable, and
the statement stands strictly below the first block of the clause and throws that variable. -/
structure In (rethrow : Rethrow) (root : Node) : Prop where
  below : rethrow.outer ≠ []
  inBlock : ∃ clause : Node, root.at? rethrow.outer = some clause ∧ clause.kind = .catchClause ∧
    clause.label.identifier.map (·.text) = some rethrow.caught ∧
    ∃ index inner, clause.children.findIdx? (fun child : Node => child.kind = .block) = some index ∧
      inner ≠ [] ∧ rethrow.path = rethrow.outer ++ index :: inner
  found : root.at? rethrow.path = some rethrow.statement
  isThrow : rethrow.statement.kind = .throwStatement
  throws : ∃ operand : Node,
    rethrow.statement.children.find? (fun child : Node => child.kind ≠ .token) = some operand ∧
      operand.kind = .reference ∧ operand.text = some rethrow.caught

/-- The order of the clauses, and within a clause that of the statements. Both are pre-order, which
is the lexicographic order of the paths. -/
def Before (rethrow other : Rethrow) : Prop :=
  rethrow.outer < other.outer ∨ rethrow.outer = other.outer ∧ rethrow.path < other.path

structure ShownBy (rethrow : Rethrow) (issue : Issue) : Prop where
  failing : issue.passed = false
  line : issue.line = rethrow.statement.span.startLine
  column : issue.column = rethrow.statement.span.startColumn
  snippet : issue.snippet = rethrow.statement.canonicalForm
  description : issue.description =
    s!"'throw {rethrow.caught};' resets the stack trace of the caught exception"
  suggestion : issue.suggestion = "Replace with 'throw;'"

def startByte (rethrow : Rethrow) : Nat := rethrow.statement.span.startByte

end Rethrow

variable {root clause block statement : Node} {outer : List Nat} {index : Nat} {caught : String}
  {rethrow other : Rethrow}

theorem throwsVariable_iff : throwsVariable caught statement = true ↔
    statement.kind = .throwStatement ∧ ∃ operand : Node,
      statement.children.find? (fun child : Node => child.kind ≠ .token) = some operand ∧
        operand.kind = .reference ∧ operand.text = some caught := by
  have operand?_eq : statement.operand? =
      statement.children.find? fun child : Node => child.kind ≠ .token := rfl
  rw [throwsVariable, Bool.and_eq_true, decide_eq_true_eq, operand?_eq]
  cases statement.children.find? fun child : Node => child.kind ≠ .token with
  | none => simp
  | some operand => simp

theorem block?_eq_some_iff : clause.block? = some block ↔
    ∃ index, clause.children.findIdx? Node.isBlock = some index ∧
      clause.children[index]? = some block := by
  rw [Node.block?, List.find?_eq_bind_findIdx?_getElem?, Option.bind_eq_some_iff]

/-! ## The rethrows of one clause -/

def placedRethrows (outer : List Nat) (clause : Node) : List Rethrow :=
  match clause.label.identifier, clause.children.findIdx? Node.isBlock, clause.block? with
  | some caught, some index, some block =>
    (block.placedDescendants.filter fun placed => throwsVariable caught.text placed.2).map
      fun (inner, statement) => ⟨outer, outer ++ index :: inner, caught.text, statement⟩
  | _, _, _ => []

theorem map_placedRethrows (outer : List Nat) (clause : Node) :
    (placedRethrows outer clause).map (fun rethrow => (rethrow.caught, rethrow.statement)) =
      rethrows clause := by
  unfold placedRethrows rethrows
  cases clause.label.identifier with
  | none => rfl
  | some caught =>
      cases found : clause.block? with
      | none => cases clause.children.findIdx? Node.isBlock <;> rfl
      | some block =>
          obtain ⟨index, first, -⟩ := block?_eq_some_iff.mp found
          simp only [first]
          rw [← Tree.map_snd_placedDescendants, List.filter_map, List.map_map, List.map_map]
          rfl

theorem mem_placedRethrows : rethrow ∈ placedRethrows outer clause ↔
    rethrow.outer = outer ∧ clause.label.identifier.map (·.text) = some rethrow.caught ∧
      ∃ index block inner, clause.children.findIdx? Node.isBlock = some index ∧
        clause.children[index]? = some block ∧ rethrow.path = outer ++ index :: inner ∧
        inner ≠ [] ∧ block.at? inner = some rethrow.statement ∧
        throwsVariable rethrow.caught rethrow.statement = true := by
  unfold placedRethrows
  constructor
  · intro listed
    split at listed
    · rename_i caught index block binds first found
      obtain ⟨⟨inner, statement⟩, thrown, rfl⟩ := List.mem_map.mp listed
      obtain ⟨placed, throws⟩ := List.mem_filter.mp thrown
      obtain ⟨proper, reached⟩ := Tree.mem_placedDescendants.mp placed
      obtain ⟨_, same, isChild⟩ := block?_eq_some_iff.mp found
      cases first.symm.trans same
      exact ⟨rfl, by rw [binds]; rfl, index, block, inner, first, isChild, rfl, proper, reached,
        throws⟩
    · cases listed
  · obtain ⟨clausePath, path, caught, statement⟩ := rethrow
    dsimp only
    rintro ⟨rfl, binds, index, block, inner, first, isChild, rfl, proper, reached, throws⟩
    obtain ⟨token, declared, rfl⟩ := Option.map_eq_some_iff.mp binds
    rw [declared, first, block?_eq_some_iff.mpr ⟨index, first, isChild⟩]
    refine List.mem_map.mpr ⟨(inner, statement), List.mem_filter.mpr ⟨?_, throws⟩, rfl⟩
    exact Tree.mem_placedDescendants.mpr ⟨proper, reached⟩

theorem pairwise_placedRethrows (outer : List Nat) (clause : Node) :
    (placedRethrows outer clause).Pairwise Rethrow.Before := by
  unfold placedRethrows
  split
  · rename_i caught index block _ _ _
    rw [List.pairwise_map]
    refine ((Tree.pairwise_lt_placedDescendants block).filter _).imp ?_
    intro placed other before
    have deeper : index :: placed.1 < index :: other.1 :=
      List.cons_lt_cons_iff.mpr (.inr ⟨rfl, before⟩)
    exact .inr ⟨rfl, List.append_left_lt deeper⟩
  · exact .nil

/-! ## The rethrows of all clauses -/

def placedClauses (root : Node) : List (List Nat × Node) :=
  root.placedDescendants.filter fun placed => Node.kind placed.2 = .catchClause

def allRethrows (root : Node) : List Rethrow :=
  (placedClauses root).flatMap fun placed => placedRethrows placed.1 placed.2

theorem map_allRethrows (root : Node) :
    (allRethrows root).map (fun rethrow => (rethrow.caught, rethrow.statement)) =
      (root.descendants.filter fun node => Node.kind node = .catchClause).flatMap rethrows := by
  rw [allRethrows, List.map_flatMap, ← Tree.map_snd_placedDescendants, List.filter_map,
    List.flatMap_map]
  exact List.flatMap_congr fun placed _ => map_placedRethrows placed.1 placed.2

theorem mem_placedClauses : (outer, clause) ∈ placedClauses root ↔
    outer ≠ [] ∧ root.at? outer = some clause ∧ clause.kind = .catchClause := by
  simp [placedClauses, Tree.mem_placedDescendants, and_assoc]

theorem mem_allRethrows : rethrow ∈ allRethrows root ↔ rethrow.In root := by
  simp only [allRethrows, List.mem_flatMap, Prod.exists, mem_placedClauses]
  constructor
  · rintro ⟨_, clause, ⟨below, clauseAt, isClause⟩, listed⟩
    obtain ⟨rfl, binds, index, block, inner, first, isChild, path, proper, reached, throws⟩ :=
      mem_placedRethrows.mp listed
    obtain ⟨isThrow, throws⟩ := throwsVariable_iff.mp throws
    refine ⟨below, ?_, ?_, isThrow, throws⟩
    · exact ⟨clause, clauseAt, isClause, binds, index, inner, first, proper, path⟩
    · rw [path, Tree.at?_append_cons clauseAt isChild, reached]
  · rintro ⟨below, ⟨clause, clauseAt, isClause, binds, index, inner, first, proper, path⟩, found,
      isThrow, throws⟩
    refine ⟨rethrow.outer, clause, ⟨below, clauseAt, isClause⟩, mem_placedRethrows.mpr ?_⟩
    obtain ⟨inRange, -⟩ := List.findIdx?_eq_some_iff_getElem.mp first
    have isChild := List.getElem?_eq_getElem inRange
    rw [path, Tree.at?_append_cons clauseAt isChild] at found
    exact ⟨rfl, binds, index, _, inner, first, isChild, path, proper, found,
      throwsVariable_iff.mpr ⟨isThrow, throws⟩⟩

theorem pairwise_allRethrows (root : Node) : (allRethrows root).Pairwise Rethrow.Before := by
  rw [allRethrows, List.pairwise_flatMap]
  constructor
  · intro placed _
    exact pairwise_placedRethrows placed.1 placed.2
  · refine ((Tree.pairwise_lt_placedDescendants root).filter _).imp ?_
    intro placed later before rethrow listed other alsoListed
    obtain ⟨clause, -⟩ := mem_placedRethrows.mp listed
    obtain ⟨laterClause, -⟩ := mem_placedRethrows.mp alsoListed
    rw [← clause, ← laterClause] at before
    exact .inl before

/-! ## The first one for every key -/

section DistinctBy

variable {α : Type} {key : α → Nat} {seen : List Nat} {members : List α} {member : α}

theorem key_notMem_of_mem_distinctBy (kept : member ∈ distinctBy key seen members) :
    key member ∉ seen := by
  fun_induction distinctBy key seen members with
  | case1 => cases kept
  | case2 seen first members _ ih => exact ih kept
  | case3 seen first members unseen ih =>
      rcases List.mem_cons.mp kept with rfl | later
      · exact unseen
      · exact List.not_mem_of_not_mem_cons (ih later)

theorem nodup_map_distinctBy (key : α → Nat) (seen : List Nat) (members : List α) :
    ((distinctBy key seen members).map key).Nodup := by
  fun_induction distinctBy key seen members with
  | case1 => exact .nil
  | case2 seen first members _ ih => exact ih
  | case3 seen first members _ ih =>
      rw [List.map_cons, List.nodup_cons]
      refine ⟨?_, ih⟩
      intro again
      obtain ⟨later, kept, same⟩ := List.mem_map.mp again
      exact key_notMem_of_mem_distinctBy kept (same ▸ List.mem_cons_self)

theorem exists_mem_distinctBy {before : α → α → Prop} (ordered : members.Pairwise before)
    (listed : member ∈ members) (unseen : key member ∉ seen) :
    ∃ first ∈ distinctBy key seen members,
      key first = key member ∧ (first = member ∨ before first member) := by
  fun_induction distinctBy key seen members with
  | case1 => cases listed
  | case2 seen head members known ih =>
      rcases List.mem_cons.mp listed with rfl | later
      · exact absurd known unseen
      · exact ih (List.pairwise_cons.mp ordered).2 later unseen
  | case3 seen head members _ ih =>
      obtain ⟨fromHead, ordered⟩ := List.pairwise_cons.mp ordered
      rcases List.mem_cons.mp listed with rfl | later
      · exact ⟨member, List.mem_cons_self, rfl, .inl rfl⟩
      · by_cases same : key head = key member
        · exact ⟨head, List.mem_cons_self, same, .inr (fromHead member later)⟩
        · have stillUnseen : key member ∉ key head :: seen := by
            simpa using ⟨Ne.symm same, unseen⟩
          obtain ⟨first, kept, found⟩ := ih ordered later stillUnseen
          exact ⟨first, List.mem_cons_of_mem _ kept, found⟩

end DistinctBy

/-! ## The rethrows that are reported -/

def reportedRethrows (root : Node) : List Rethrow :=
  distinctBy Rethrow.startByte [] (allRethrows root)

theorem map_reportedRethrows (root : Node) :
    (reportedRethrows root).map (fun rethrow => rethrowIssue rethrow.caught rethrow.statement) =
      rethrowIssues (root.descendants.filter fun node => Node.kind node = .catchClause) := by
  rw [rethrowIssues, ← map_allRethrows, distinctBy_map, List.map_map]
  rfl

theorem filter_rethrowByName (root : Node) :
    (issues root).filter (·.rule = .rethrowByName) =
      rethrowIssues (root.descendants.filter fun node => Node.kind node = .catchClause) := by
  have others : ∀ issue ∈ (root.methods.filter (Node.hasModifier · .async)).flatMap asyncIssues,
      ¬ decide (issue.rule = .rethrowByName) = true := by
    intro issue reported
    obtain ⟨method, -, blocking⟩ := List.mem_flatMap.mp reported
    simp [rule_of_mem_asyncIssues blocking]
  rw [issues, List.filter_append, List.filter_append, List.filter_eq_nil_iff.mpr others,
    List.append_nil, List.filter_eq_nil_iff.mpr, List.nil_append, List.filter_eq_self]
  · intro issue reported
    simp [rule_of_mem_rethrowIssues reported]
  · intro issue reported
    obtain ⟨clause, -, caught⟩ := List.mem_flatMap.mp reported
    rcases rule_of_mem_clauseIssues caught with rule | rule <;> simp [rule]

theorem in_of_mem_reportedRethrows (reported : rethrow ∈ reportedRethrows root) :
    rethrow.In root :=
  mem_allRethrows.mp ((distinctBy_sublist ..).subset reported)

theorem startByte_eq_of_path_eq (inside : rethrow.In root) (alsoInside : other.In root)
    (same : rethrow.path = other.path) : rethrow.startByte = other.startByte := by
  have statement : rethrow.statement = other.statement := by
    have found := inside.found
    rw [same, alsoInside.found] at found
    exact (Option.some.inj found).symm
  rw [Rethrow.startByte, Rethrow.startByte, statement]

theorem path_eq_of_startByte_eq (distinct : DistinctThrows root) (inside : rethrow.In root)
    (alsoInside : other.In root) (same : rethrow.startByte = other.startByte) :
    rethrow.path = other.path := by
  have listed {rethrow : Rethrow} (inside : rethrow.In root) :
      (rethrow.path, rethrow.statement) ∈
        root.placedDescendants.filter fun placed => Node.kind placed.2 = .throwStatement := by
    obtain ⟨-, ⟨_, -, -, -, _, _, -, -, path⟩, found, isThrow, -⟩ := inside
    refine List.mem_filter.mpr ⟨Tree.mem_placedDescendants.mpr ⟨?_, found⟩, by simpa using isThrow⟩
    simp [path]
  rw [DistinctThrows, ← Tree.map_snd_placedDescendants, List.filter_map, List.map_map] at distinct
  exact congrArg Prod.fst
    (List.inj_on_of_nodup_map distinct (listed inside) (listed alsoInside) same)

theorem exists_mem_reportedRethrows (inside : rethrow.In root) :
    ∃ first ∈ reportedRethrows root,
      first.startByte = rethrow.startByte ∧ (first = rethrow ∨ first.Before rethrow) :=
  exists_mem_distinctBy (pairwise_allRethrows root) (mem_allRethrows.mpr inside) List.not_mem_nil

theorem nodup_map_path_reportedRethrows (root : Node) :
    ((reportedRethrows root).map (·.path)).Nodup := by
  have starts : (reportedRethrows root).Pairwise (·.startByte ≠ ·.startByte) :=
    List.pairwise_map.mp (nodup_map_distinctBy Rethrow.startByte [] (allRethrows root))
  rw [List.Nodup, List.pairwise_map]
  refine starts.imp_of_mem ?_
  intro rethrow other reported alsoReported different same
  exact different (startByte_eq_of_path_eq (in_of_mem_reportedRethrows reported)
    (in_of_mem_reportedRethrows alsoReported) same)

theorem mem_map_path_reportedRethrows (distinct : DistinctThrows root) {path : List Nat} :
    path ∈ (reportedRethrows root).map (·.path) ↔
      ∃ rethrow : Rethrow, rethrow.path = path ∧ rethrow.In root := by
  constructor
  · intro listed
    obtain ⟨rethrow, reported, same⟩ := List.mem_map.mp listed
    exact ⟨rethrow, same, in_of_mem_reportedRethrows reported⟩
  · rintro ⟨rethrow, rfl, inside⟩
    obtain ⟨first, reported, same, -⟩ := exists_mem_reportedRethrows inside
    refine List.mem_map.mpr ⟨first, reported, ?_⟩
    exact path_eq_of_startByte_eq distinct (in_of_mem_reportedRethrows reported) inside same

theorem outer_le_of_mem_reportedRethrows (reported : rethrow ∈ reportedRethrows root)
    (inside : other.In root) (same : other.path = rethrow.path) :
    rethrow.outer ≤ other.outer := by
  obtain ⟨first, kept, sameStart, earlier⟩ := exists_mem_reportedRethrows inside
  have sameKey : first.startByte = rethrow.startByte :=
    sameStart.trans (startByte_eq_of_path_eq inside (in_of_mem_reportedRethrows reported) same)
  -- Nothing else is reported for the same byte, so the first one found is this one.
  have isFirst : first = rethrow :=
    List.inj_on_of_nodup_map (nodup_map_distinctBy Rethrow.startByte [] (allRethrows root))
      kept reported sameKey
  subst isFirst
  rcases earlier with rfl | before | ⟨sameClause, -⟩
  · exact le_refl _
  · exact le_of_lt before
  · exact le_of_eq sameClause

/-- The issues show these rethrows, one after another: every statement that is a rethrow for some
clause, with the first such clause, in the order of the clauses. -/
structure ReportedOnce (root : Node) (rethrows : List Rethrow) : Prop where
  once : (rethrows.map (·.path)).Nodup
  all : ∀ path, path ∈ rethrows.map (·.path) ↔
    ∃ rethrow : Rethrow, rethrow.path = path ∧ rethrow.In root
  first : ∀ rethrow ∈ rethrows, rethrow.In root ∧
    ∀ other : Rethrow, other.In root → other.path = rethrow.path → rethrow.outer ≤ other.outer
  ordered : rethrows.Pairwise Rethrow.Before
  issues : List.Forall₂ Rethrow.ShownBy rethrows ((issues root).filter (·.rule = .rethrowByName))

/-- However clauses are nested and whatever their variables are called, a statement that throws a
caught variable again is reported once, and no other statement is. -/
theorem rethrows_reported_once (root : Node) (distinct : DistinctThrows root) :
    ∃ rethrows, ReportedOnce root rethrows := by
  refine ⟨reportedRethrows root, nodup_map_path_reportedRethrows root,
    fun _ => mem_map_path_reportedRethrows distinct, ?_, ?_, ?_⟩
  · intro rethrow reported
    refine ⟨in_of_mem_reportedRethrows reported, ?_⟩
    intro other inside same
    exact outer_le_of_mem_reportedRethrows reported inside same
  · exact (pairwise_allRethrows root).sublist (distinctBy_sublist ..)
  · rw [filter_rethrowByName, ← map_reportedRethrows, List.forall₂_map_right_iff,
      List.forall₂_same]
    intro rethrow _
    exact ⟨rfl, rfl, rfl, rfl, rfl, rfl⟩

theorem ReportedOnce.map_startLine {rethrows : List Rethrow} (once : ReportedOnce root rethrows) :
    rethrows.map (·.statement.span.startLine) =
      ((Exceptions.issues root).filter (·.rule = .rethrowByName)).map (·.line) := by
  have lines : List.Forall₂ (fun rethrow issue => rethrow.statement.span.startLine = issue.line)
      rethrows ((Exceptions.issues root).filter (·.rule = .rethrowByName)) :=
    once.issues.imp fun _ _ shown => shown.line.symm
  rwa [← List.forall₂_eq_eq_eq, List.forall₂_map_left_iff, List.forall₂_map_right_iff]

namespace Sample

def throwing (line : Nat) : Node :=
  .node { kind := .throwStatement, span := { startByte := 10 * line, startLine := line } }
    [.node { kind := .token } [], Node.leaf .reference {} "e"]

def catching (statements : List Node) : Node :=
  .node { kind := .catchClause, identifier := some ⟨"e", {}⟩ } [.node { kind := .block } statements]

def nestedClauses : Node :=
  .node { kind := .compilationUnit }
    [catching [throwing 1, catching [throwing 2], throwing 3], throwing 4]

end Sample

open Exceptions.Sample in
theorem rethrows_reported_once_nested :
    DistinctThrows nestedClauses ∧
      ∃ rethrows, ReportedOnce nestedClauses rethrows ∧
        rethrows.map (·.statement.span.startLine) = [1, 2, 3] := by
  have distinct : DistinctThrows nestedClauses := by decide
  obtain ⟨rethrows, once⟩ := rethrows_reported_once nestedClauses distinct
  exact ⟨distinct, rethrows, once, once.map_startLine.trans (by decide)⟩

end SharpLint.Check.Exceptions
