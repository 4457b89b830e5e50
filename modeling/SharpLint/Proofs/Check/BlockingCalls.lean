import Mathlib.Data.List.Forall2
import SharpLint.Check.Exceptions
import SharpLint.Proofs.Check.Reports
import SharpLint.Proofs.Tree.Ancestry

/-!
# Blocking calls of async methods

A call that blocks the thread (`Blocks`) is held against the innermost method around it, if that is
async and the call stands in its body (`Blamed`). The check walks the body of every async method and
turns back at the methods inside, which have walks of their own; so each such call is met on one
walk only (`Encloses.unique`) and reported once.
-/

namespace SharpLint.Check.Exceptions

/-- The callee is the suffix after at least one character, all on one line. -/
def Qualifies (suffix callee : String) : Prop :=
  ∃ qualifier : List Char, callee.toList = qualifier ++ suffix.toList ∧ qualifier ≠ [] ∧
    '\n' ∉ qualifier

/-- The node puts the thread to sleep, waits for a task, or asks for the result of one. -/
inductive Blocks (node : Node) : Prop where
  | sleep {callee : String} {arguments : Nat} (kind : node.kind = .invocation callee arguments)
      (sleeps : callee = "Thread.Sleep" ∨ Qualifies ".Thread.Sleep" callee)
  | wait {callee : String} (kind : node.kind = .invocation callee 0)
      (waits : Qualifies ".Wait" callee)
  | result (kind : node.kind = .memberAccess "Result")

/-- The method at the end of `outer`, below the root, is the innermost one around the end of the
path. -/
structure Encloses (root : Node) (outer path : List Nat) (method : Node) : Prop where
  below : outer ≠ []
  found : root.at? outer = some method
  isMethod : method.kind = .methodDecl
  around : outer <+: path ∧ outer ≠ path
  innermost : ∀ middle, outer <+: middle → middle ≠ outer → middle <+: path → middle ≠ path →
    ∀ node : Node, root.at? middle = some node → node.kind ≠ .methodDecl

/-- The node at the end of the path blocks the thread of the innermost method around it, which is
async and has the node strictly below its body. -/
structure Blamed (root : Node) (path : List Nat) (method node : Node) : Prop where
  found : root.at? path = some node
  blocks : Blocks node
  async : method.hasModifier .async = true
  inBody : ∃ outer index inner, path = outer ++ index :: inner ∧ inner ≠ [] ∧
    Encloses root outer path method ∧ method.children.findIdx? Node.isBody = some index

structure Accuses (issue : Issue) (method node : Node) : Prop where
  rule : issue.rule = .blockingAsyncCall
  failing : issue.passed = false
  line : issue.line = node.span.startLine
  column : issue.column = node.span.startColumn
  shown : blockingText? node = some issue.snippet
  description : issue.description =
    s!"'{issue.snippet}' blocks the thread inside async method '{method.name}'"

variable {root method node body : Node} {outer inner path : List Nat} {index : Nat} {issue : Issue}

/-! ## Blocking nodes -/

theorem isQualified_iff {suffix callee : String} :
    isQualified suffix callee.toList = true ↔ Qualifies suffix callee := by
  have qualifier_eq (qualifier : List Char) :
      (qualifier ++ suffix.toList).take ((qualifier ++ suffix.toList).length - suffix.length) =
        qualifier := by
    rw [List.length_append, String.length_toList, Nat.add_sub_cancel, List.take_left]
  simp only [isQualified, Bool.and_eq_true, List.isSuffixOf_iff_suffix, Bool.not_eq_true',
    List.isEmpty_eq_false_iff, List.all_eq_true, bne_iff_ne]
  constructor
  · rintro ⟨⟨⟨qualifier, same⟩, nonempty⟩, oneLine⟩
    rw [← same, qualifier_eq] at nonempty oneLine
    exact ⟨qualifier, same.symm, nonempty, fun member => oneLine _ member rfl⟩
  · rintro ⟨qualifier, same, nonempty, oneLine⟩
    rw [same, qualifier_eq]
    exact ⟨⟨List.suffix_append _ _, nonempty⟩, fun _ member broken => oneLine (broken ▸ member)⟩

theorem isSleep_iff {callee : String} :
    isSleep callee = true ↔ callee = "Thread.Sleep" ∨ Qualifies ".Thread.Sleep" callee := by
  simp [isSleep, isQualified_iff]

theorem isWait_iff {callee : String} {arguments : Nat} :
    isWait callee arguments = true ↔ Qualifies ".Wait" callee ∧ arguments = 0 := by
  simp [isWait, isQualified_iff]

theorem exists_blockingText?_iff : (∃ call, blockingText? node = some call) ↔ Blocks node := by
  constructor
  · rintro ⟨call, shown⟩
    unfold blockingText? at shown
    split at shown
    case h_1 callee arguments kind =>
      obtain ⟨blocks, -⟩ := Option.ite_none_right_eq_some.mp shown
      rcases Bool.or_eq_true _ _ ▸ blocks with sleeps | waits
      · exact .sleep kind (isSleep_iff.mp sleeps)
      · obtain ⟨qualified, rfl⟩ := isWait_iff.mp waits
        exact .wait kind qualified
    case h_2 member kind =>
      obtain ⟨rfl, -⟩ := Option.ite_none_right_eq_some.mp shown
      exact .result kind
    case h_3 => cases shown
  · intro blocks
    cases blocks with
    | sleep kind sleeps => simp [blockingText?, kind, isSleep_iff.mpr sleeps]
    | wait kind waits => simp [blockingText?, kind, isWait_iff.mpr ⟨waits, rfl⟩]
    | result kind => simp [blockingText?, kind]

/-! ## Innermost methods -/

theorem Encloses.unique {other : List Nat} {otherMethod : Node}
    (encloses : Encloses root outer path method)
    (alsoEncloses : Encloses root other path otherMethod) : outer = other := by
  -- Of two methods around a place, the outer one cannot be the innermost.
  by_contra different
  rcases List.prefix_or_prefix_of_prefix encloses.around.1 alsoEncloses.around.1 with
    deeper | deeper
  · exact encloses.innermost other deeper (Ne.symm different) alsoEncloses.around.1
      alsoEncloses.around.2 otherMethod alsoEncloses.found alsoEncloses.isMethod
  · exact alsoEncloses.innermost outer deeper different encloses.around.1 encloses.around.2 method
      encloses.found encloses.isMethod

theorem Blamed.eq_of_encloses {other : Node} (blamed : Blamed root path method node)
    (encloses : Encloses root outer path other) : other = method := by
  obtain ⟨_, _, _, -, -, alsoEncloses, -⟩ := blamed.inBody
  cases encloses.unique alsoEncloses
  exact Option.some.inj (encloses.found.symm.trans alsoEncloses.found)

theorem encloses_iff (found : root.at? outer = some method)
    (isChild : method.children[index]? = some body) :
    Encloses root outer (outer ++ index :: inner) method ↔
      outer ≠ [] ∧ method.kind = .methodDecl ∧
        ∀ ancestor ∈ body.ancestors inner, Node.kind ancestor ≠ .methodDecl := by
  constructor
  · intro encloses
    refine ⟨encloses.below, encloses.isMethod, ?_⟩
    intro ancestor around
    obtain ⟨front, isPrefix, proper, reached⟩ := Tree.mem_ancestors.mp around
    apply encloses.innermost (outer ++ index :: front)
    · exact List.prefix_append _ _
    · simp
    · simpa [List.prefix_append_right_inj] using isPrefix
    · simpa using proper
    · rw [Tree.at?_append_cons found isChild, reached]
  · rintro ⟨below, isMethod, noneAround⟩
    refine ⟨below, found, isMethod, ⟨List.prefix_append _ _, by simp⟩, ?_⟩
    rintro middle ⟨rest, rfl⟩ longer isPrefix proper between reached
    cases rest with
    | nil => simp at longer
    | cons first front =>
        rw [List.prefix_append_right_inj, List.cons_prefix_cons] at isPrefix
        obtain ⟨rfl, isPrefix⟩ := isPrefix
        rw [Tree.at?_append_cons found isChild] at reached
        apply noneAround
        exact Tree.mem_ancestors.mpr ⟨front, isPrefix, by simpa using proper, reached⟩

/-! ## The walk of one method -/

def placedAsyncMethods (root : Node) : List (List Nat × Node) :=
  root.placedDescendants.filter fun (_, method) => Node.isMethod method && method.hasModifier .async

def placedIssues (outer : List Nat) (method : Node) : List (List Nat × Issue) :=
  match method.children.findIdx? Node.isBody, method.body? with
  | some index, some body =>
    (body.placedReached (!Node.isMethod ·)).filterMap fun (inner, node) =>
      (blockingText? node).map fun call => (outer ++ index :: inner, blockingIssue method call node)
  | _, _ => []

theorem mem_placedAsyncMethods : (outer, method) ∈ placedAsyncMethods root ↔
    outer ≠ [] ∧ root.at? outer = some method ∧ method.kind = .methodDecl ∧
      method.hasModifier .async = true := by
  simp [placedAsyncMethods, Tree.mem_placedDescendants, Node.isMethod, and_assoc]

theorem body?_eq_some_iff : method.body? = some body ↔
    ∃ index, method.children.findIdx? Node.isBody = some index ∧
      method.children[index]? = some body := by
  rw [Node.body?, List.find?_eq_bind_findIdx?_getElem?, Option.bind_eq_some_iff]

theorem not_isMethod_of_isBody (isBody : body.isBody = true) : (!Node.isMethod body) = true := by
  simp only [Node.isBody, Bool.or_eq_true, decide_eq_true_eq] at isBody
  rcases isBody with kind | kind <;> simp [Node.isMethod, kind]

theorem map_snd_placedIssues (outer : List Nat) (method : Node) :
    (placedIssues outer method).map (·.2) = asyncIssues method := by
  unfold placedIssues asyncIssues
  cases found : method.body? with
  | none => cases method.children.findIdx? Node.isBody <;> rfl
  | some body =>
      obtain ⟨index, first, -⟩ := body?_eq_some_iff.mp found
      have goesInto := not_isMethod_of_isBody (List.find?_some found)
      simp only [first]
      rw [ownNodes, Tree.Walk.toList_eq, ← Tree.map_snd_placedReached goesInto, List.filterMap_map,
        List.map_filterMap]
      apply List.filterMap_congr
      intro placed _
      simp [Option.map_map, Function.comp_def]

theorem nodup_placedIssues (outer : List Nat) (method : Node) :
    ((placedIssues outer method).map (·.1)).Nodup := by
  unfold placedIssues
  split
  · rename_i index body _ _
    have places : body.placedDescendants.Pairwise (·.1 ≠ ·.1) :=
      List.pairwise_map.mp (Tree.nodup_placedDescendants body)
    rw [List.Nodup, List.pairwise_map, List.pairwise_filterMap]
    refine (places.filter _).imp ?_
    rintro ⟨first, firstNode⟩ ⟨second, secondNode⟩ different one shown other alsoShown same
    obtain ⟨_, -, rfl⟩ := Option.map_eq_some_iff.mp shown
    obtain ⟨_, -, rfl⟩ := Option.map_eq_some_iff.mp alsoShown
    exact different (List.cons.inj (List.append_cancel_left same)).2
  · simp

theorem mem_placedIssues :
    (path, issue) ∈ placedIssues outer method ↔
      ∃ index body inner node call, method.children.findIdx? Node.isBody = some index ∧
        method.children[index]? = some body ∧
        (inner, node) ∈ body.placedReached (!Node.isMethod ·) ∧ blockingText? node = some call ∧
        path = outer ++ index :: inner ∧ issue = blockingIssue method call node := by
  unfold placedIssues
  constructor
  · intro listed
    split at listed
    · rename_i index body first found
      obtain ⟨⟨inner, node⟩, reached, shown⟩ := List.mem_filterMap.mp listed
      obtain ⟨call, blocking, same⟩ := Option.map_eq_some_iff.mp shown
      cases same
      obtain ⟨_, same, isChild⟩ := body?_eq_some_iff.mp found
      cases first.symm.trans same
      exact ⟨index, body, inner, node, call, first, isChild, reached, blocking, rfl, rfl⟩
    · cases listed
  · rintro ⟨index, body, inner, node, call, first, isChild, reached, shown, rfl, rfl⟩
    rw [first, body?_eq_some_iff.mpr ⟨index, first, isChild⟩]
    exact List.mem_filterMap.mpr ⟨(inner, node), reached, by simp [shown]⟩

theorem mem_placedReached_iff :
    (inner, node) ∈ body.placedReached (!Node.isMethod ·) ↔
      inner ≠ [] ∧ body.at? inner = some node ∧
        ∀ ancestor ∈ body.ancestors inner, Node.kind ancestor ≠ .methodDecl := by
  simp [Tree.placedReached, Tree.mem_placedDescendants, Node.isMethod, and_assoc]

theorem mem_placedIssues_iff (walked : (outer, method) ∈ placedAsyncMethods root) :
    (path, issue) ∈ placedIssues outer method ↔
      Encloses root outer path method ∧ ∃ node call, Blamed root path method node ∧
        blockingText? node = some call ∧ issue = blockingIssue method call node := by
  obtain ⟨below, found, isMethod, async⟩ := mem_placedAsyncMethods.mp walked
  rw [mem_placedIssues]
  constructor
  · rintro ⟨index, body, inner, node, call, first, isChild, reached, shown, rfl, rfl⟩
    obtain ⟨proper, atNode, noneAround⟩ := mem_placedReached_iff.mp reached
    have encloses : Encloses root outer (outer ++ index :: inner) method :=
      (encloses_iff found isChild).mpr ⟨below, isMethod, noneAround⟩
    refine ⟨encloses, node, call, ⟨?_, ?_, async, ?_⟩, shown, rfl⟩
    · rw [Tree.at?_append_cons found isChild, atNode]
    · exact exists_blockingText?_iff.mp ⟨call, shown⟩
    · exact ⟨outer, index, inner, rfl, proper, encloses, first⟩
  · rintro ⟨encloses, node, call, blamed, shown, rfl⟩
    obtain ⟨_, index, inner, rfl, proper, alsoEncloses, first⟩ := blamed.inBody
    -- The innermost method is one, so the call stands in the body of this one.
    cases encloses.unique alsoEncloses
    obtain ⟨inRange, -⟩ := List.findIdx?_eq_some_iff_getElem.mp first
    have isChild := List.getElem?_eq_getElem inRange
    obtain ⟨-, -, noneAround⟩ := (encloses_iff found isChild).mp encloses
    have atNode := blamed.found
    rw [Tree.at?_append_cons found isChild] at atNode
    exact ⟨index, _, inner, node, call, first, isChild,
      mem_placedReached_iff.mpr ⟨proper, atNode, noneAround⟩, shown, rfl, rfl⟩

/-! ## All walks -/

def placedBlockingIssues (root : Node) : List (List Nat × Issue) :=
  (placedAsyncMethods root).flatMap fun placed => placedIssues placed.1 placed.2

theorem mem_placedBlockingIssues : (path, issue) ∈ placedBlockingIssues root ↔
    ∃ method node call, Blamed root path method node ∧ blockingText? node = some call ∧
      issue = blockingIssue method call node := by
  simp only [placedBlockingIssues, List.mem_flatMap, Prod.exists]
  constructor
  · rintro ⟨outer, method, walked, listed⟩
    exact ⟨method, ((mem_placedIssues_iff walked).mp listed).2⟩
  · rintro ⟨method, node, call, blamed, shown, rfl⟩
    obtain ⟨outer, -, -, -, -, encloses, -⟩ := blamed.inBody
    have walked : (outer, method) ∈ placedAsyncMethods root := mem_placedAsyncMethods.mpr
      ⟨encloses.below, encloses.found, encloses.isMethod, blamed.async⟩
    refine ⟨outer, method, walked, ?_⟩
    exact (mem_placedIssues_iff walked).mpr ⟨encloses, node, call, blamed, shown, rfl⟩

theorem nodup_placedBlockingIssues (root : Node) :
    ((placedBlockingIssues root).map (·.1)).Nodup := by
  rw [placedBlockingIssues, List.map_flatMap, List.nodup_flatMap]
  constructor
  · intro walked _
    exact nodup_placedIssues walked.1 walked.2
  · -- A call that two walks met would have two innermost methods around it.
    have places : (placedAsyncMethods root).Pairwise (·.1 ≠ ·.1) :=
      (List.pairwise_map.mp (Tree.nodup_placedDescendants root)).filter _
    refine places.imp_of_mem ?_
    intro first second walked alsoWalked different path listed alsoListed
    simp only [List.mem_map, Prod.exists, exists_and_right, exists_eq_right] at listed alsoListed
    obtain ⟨issue, listed⟩ := listed
    obtain ⟨otherIssue, alsoListed⟩ := alsoListed
    have encloses := ((mem_placedIssues_iff walked).mp listed).1
    have alsoEncloses := ((mem_placedIssues_iff alsoWalked).mp alsoListed).1
    exact different (encloses.unique alsoEncloses)

theorem filter_issues (root : Node) :
    (issues root).filter (·.rule = .blockingAsyncCall) =
      (root.methods.filter (Node.hasModifier · .async)).flatMap asyncIssues := by
  rw [issues, List.filter_append, List.filter_append, List.filter_eq_nil_iff.mpr,
    List.filter_eq_nil_iff.mpr, List.filter_eq_self.mpr]
  · rfl
  · intro issue reported
    obtain ⟨method, -, blocking⟩ := List.mem_flatMap.mp reported
    simp [rule_of_mem_asyncIssues blocking]
  · intro issue reported
    simp [rule_of_mem_rethrowIssues reported]
  · intro issue reported
    obtain ⟨clause, -, caught⟩ := List.mem_flatMap.mp reported
    rcases rule_of_mem_clauseIssues caught with rule | rule <;> simp [rule]

theorem map_snd_placedBlockingIssues (root : Node) :
    (placedBlockingIssues root).map (·.2) =
      (issues root).filter (·.rule = .blockingAsyncCall) := by
  have methods : (placedAsyncMethods root).map (·.2) =
      root.methods.filter (Node.hasModifier · .async) := by
    rw [Node.methods, ← Tree.map_snd_placedDescendants, List.filter_filter, List.filter_map,
      placedAsyncMethods]
    congr 1
    apply List.filter_congr
    intro placed _
    exact Bool.and_comm _ _
  rw [filter_issues, ← methods, List.flatMap_map, placedBlockingIssues, List.map_flatMap]
  apply List.flatMap_congr
  intro placed _
  exact map_snd_placedIssues placed.1 placed.2

theorem mem_map_fst_placedBlockingIssues :
    path ∈ (placedBlockingIssues root).map (·.1) ↔ ∃ method node, Blamed root path method node := by
  simp only [List.mem_map, Prod.exists, exists_and_right, exists_eq_right,
    mem_placedBlockingIssues]
  constructor
  · rintro ⟨issue, method, node, call, blamed, -, -⟩
    exact ⟨method, node, blamed⟩
  · rintro ⟨method, node, blamed⟩
    obtain ⟨call, shown⟩ := exists_blockingText?_iff.mpr blamed.blocks
    exact ⟨_, method, node, call, blamed, shown, rfl⟩

/-- The check reports every node that is to blame once, under the innermost method around it; what
stands inside a method that is not async goes unreported, whatever is around that method. -/
theorem blocking_calls_reported_once (root : Node) :
    ∃ places : List (List Nat),
      places.Nodup ∧
      (∀ path, path ∈ places ↔ ∃ method node, Blamed root path method node) ∧
      (∀ path ∈ places, ∀ outer method, Encloses root outer path method →
        method.hasModifier .async = true) ∧
      List.Forall₂ (fun path issue => ∃ method node,
          Blamed root path method node ∧ Accuses issue method node)
        places ((issues root).filter (·.rule = .blockingAsyncCall)) := by
  refine ⟨_, nodup_placedBlockingIssues root, fun _ => mem_map_fst_placedBlockingIssues, ?_, ?_⟩
  · intro path listed outer method encloses
    obtain ⟨_, node, blamed⟩ := mem_map_fst_placedBlockingIssues.mp listed
    rw [blamed.eq_of_encloses encloses]
    exact blamed.async
  · rw [← map_snd_placedBlockingIssues, List.forall₂_map_left_iff, List.forall₂_map_right_iff,
      List.forall₂_same]
    rintro ⟨path, issue⟩ listed
    obtain ⟨method, node, call, blamed, shown, rfl⟩ := mem_placedBlockingIssues.mp listed
    exact ⟨method, node, blamed, rfl, rfl, rfl, rfl, shown, rfl⟩

example :
    let sleep : Node := .node { kind := .invocation "Thread.Sleep" 1 } []
    let wait : Node := .node { kind := .invocation "task.Wait" 0 } []
    let method (name : String) (modifiers : List Modifier) (statements : List Node) : Node :=
      .node { kind := .methodDecl, modifiers, identifier := some ⟨name, {}⟩ }
        [.node { kind := .block } statements]
    let root : Node := .node { kind := .compilationUnit }
      [method "Outer" [.async] [method "Plain" [] [sleep], method "Inner" [.async] [sleep], wait]]
    (issues root).map (·.description) =
      ["'task.Wait()' blocks the thread inside async method 'Outer'",
        "'Thread.Sleep()' blocks the thread inside async method 'Inner'"] := by
  cbv

end SharpLint.Check.Exceptions
