import SharpLint.Linter
import SharpLint.Proofs.Check.Clusters
import SharpLint.Proofs.Names.Cuts

/-!
# What the checks read by offset or by number

The check of names cuts words and placeholders out of texts, cuts the first letter off a name and
looks parameters up by number; the check of blocks takes the first one of each cluster. `reads?`
does all this for a whole tree, whether or not an issue comes of it, and fails if something is not
there; what it finds is what the checks go on with (`cutWords?_eq`, `scanBody?_eq`). An analyzer
that is guarded by it (`guardedBy`) is aborted if it fails. None ever is, whatever the tree:
`guarded_eq_builtin`.
-/

namespace SharpLint

theorem forM_eq_some {α : Type} {items : List α} {read? : α → Option Unit}
    (each : ∀ item ∈ items, read? item = some ()) : items.forM read? = some () := by
  induction items with
  | nil => rfl
  | cons item items ih =>
      rw [List.forall_mem_cons] at each
      rw [List.forM, each.1, ih each.2]
      rfl

namespace Check

/-! ## Names -/

namespace Naming

open Names Text

/-- A name is cut into words to judge its case or to spell it anew. -/
def readWords? (name : List Char) : Option Unit := do
  let _ ← cutWords? name

def tokenReads? (token : Token) : Option Unit := readWords? (bareName token).toList

def parameterReads? (parameter : Token) : Option Unit := do
  tokenReads? parameter
  readWords? ((bareName parameter).toList.dropWhile (· == '_'))

def prefixReads? (name : List Char) : Option Unit :=
  if startsWith (fun c => c = 'p' || c = 'P') name then do
    readWords? (← between? name 1 (byteLength name))
  else some ()

def fieldReads? (token : Token) : Option Unit := do
  tokenReads? token
  prefixReads? (bareName token).toList
  readWords? (bareName token).toList.tail

/-- The placeholders in the strings of a body, found in the bytes of these. -/
def scanBody? (body : Node) : Option (List String) := do
  let found ← body.descendants.mapM fun (literal : Node) =>
    if literal.kind = .stringLiteral || literal.kind = .interpolatedString then
      (literal.text.map scanPlaceholders?).getD (some [])
    else some []
  return found.flatten

def placeholderReads? (node : Node) : Option Unit :=
  match node.body? with
  | none => some ()
  | some body => do
    let parameters := node.label.parameters
    let shown := (← scanBody? body).filterMap (shownParameter? parameters)
    shown.forM fun index => do tokenReads? (← parameters[index]?)

def nodeReads? (node : Node) : Option Unit :=
  match node.kind with
  | .classDecl | .interfaceDecl => node.label.identifier.toList.forM tokenReads?
  | .methodDecl => do
    node.label.identifier.toList.forM tokenReads?
    node.label.parameters.forM parameterReads?
    placeholderReads? node
  | .fieldDecl => node.label.declarators.forM fieldReads?
  | _ => some ()

def reads? (root : Node) : Option Unit := root.descendants.forM nodeReads?

theorem readWords?_eq (name : List Char) : readWords? name = some () := by
  rw [readWords?, cutWords?_eq]
  rfl

theorem tokenReads?_eq (token : Token) : tokenReads? token = some () := readWords?_eq _

theorem parameterReads?_eq (parameter : Token) : parameterReads? parameter = some () := by
  rw [parameterReads?, tokenReads?_eq, readWords?_eq]
  rfl

theorem between?_of_startsWith {name : List Char}
    (marked : startsWith (fun c => c = 'p' || c = 'P') name = true) :
    between? name 1 (byteLength name) = some name.tail := by
  cases name with
  | nil => cases marked
  | cons c rest =>
      have size : c.utf8Size = 1 := by
        simp only [startsWith, List.head?_cons, Option.map_some, Option.getD_some,
          Bool.or_eq_true, decide_eq_true_eq] at marked
        rcases marked with rfl | rfl <;> rfl
      exact between?_eq_some.mpr ⟨[c], [], by simp, by simp [size], by simp [size]⟩

theorem prefixReads?_eq (name : List Char) : prefixReads? name = some () := by
  unfold prefixReads?
  split
  · rename_i marked
    rw [between?_of_startsWith marked]
    exact readWords?_eq name.tail
  · rfl

theorem fieldReads?_eq (token : Token) : fieldReads? token = some () := by
  rw [fieldReads?, tokenReads?_eq, prefixReads?_eq, readWords?_eq]
  rfl

theorem scanBody?_eq (body : Node) : scanBody? body = some (bodyPlaceholders body) := by
  have each : (fun (literal : Node) =>
      if literal.kind = .stringLiteral || literal.kind = .interpolatedString then
        (literal.text.map scanPlaceholders?).getD (some [])
      else some []) = fun (literal : Node) =>
        pure (if literal.kind = .stringLiteral || literal.kind = .interpolatedString then
          (literal.text.map placeholdersOf).getD []
        else []) := by
    funext literal
    split
    · cases literal.text with
      | none => rfl
      | some text => exact scanPlaceholders?_eq text
    · rfl
  rw [scanBody?, each, List.mapM_pure]
  rfl

theorem placeholderReads?_eq (node : Node) : placeholderReads? node = some () := by
  unfold placeholderReads?
  cases node.body? with
  | none => rfl
  | some body =>
      simp only [scanBody?_eq, Option.bind_eq_bind, Option.bind_some]
      apply forM_eq_some
      intro index shown
      -- The number of a parameter is that of the first one with the name of a placeholder.
      obtain ⟨placeholder, -, first⟩ := List.mem_filterMap.mp shown
      obtain ⟨inside, -⟩ := List.findIdx?_eq_some_iff_getElem.mp first
      rw [List.getElem?_eq_getElem inside, Option.bind_some, tokenReads?_eq]

theorem nodeReads?_eq (node : Node) : nodeReads? node = some () := by
  have identifier : node.label.identifier.toList.forM tokenReads? = some () :=
    forM_eq_some fun token _ => tokenReads?_eq token
  have parameters : node.label.parameters.forM parameterReads? = some () :=
    forM_eq_some fun parameter _ => parameterReads?_eq parameter
  unfold nodeReads?
  split
  · exact identifier
  · exact identifier
  · rw [identifier, parameters, placeholderReads?_eq]
    rfl
  · exact forM_eq_some fun token _ => fieldReads?_eq token
  · rfl

theorem reads?_eq (root : Node) : reads? root = some () :=
  forM_eq_some fun node _ => nodeReads?_eq node

end Naming

/-! ## Blocks -/

namespace Duplication

/-- The first block of a cluster is the one that is shown. -/
def reads? (limits : DuplicationLimits) (root : Node) : Option Unit :=
  (clusters root limits.minStatements).forM fun members => do
    let _ ← members[0]?

theorem reads?_eq (limits : DuplicationLimits) (root : Node) : reads? limits root = some () := by
  apply forM_eq_some
  intro members listed
  obtain ⟨-, -, several⟩ := mem_clusters.mp listed
  rw [List.getElem?_eq_getElem (Nat.zero_lt_of_lt several)]
  rfl

end Duplication

end Check

/-! ## Analyzers -/

namespace Analyzer

/-- The analyzer, aborted if something that it reads is not there. -/
def guardedBy (analyzer : Analyzer) (reads? : Node → Option Unit) : Analyzer where
  name := analyzer.name
  category := analyzer.category
  inspect root :=
    match reads? root with
    | some () => analyzer.inspect root
    | none => { ending := .aborted (some "out of range") }

/-- What a built-in analyzer reads by offset or by number. -/
def reads? (config : Config) (name : String) : Node → Option Unit :=
  if name = "naming" then Check.Naming.reads?
  else if name = "duplication" then Check.Duplication.reads? config.duplication
  else fun _ => some ()

/-- The built-in analyzers, each guarded by what it reads. -/
def guarded (config : Config) : List Analyzer :=
  (builtin config).map fun analyzer => analyzer.guardedBy (reads? config analyzer.name)

theorem guardedBy_eq (analyzer : Analyzer) {reads? : Node → Option Unit}
    (each : ∀ root, reads? root = some ()) : analyzer.guardedBy reads? = analyzer := by
  unfold guardedBy
  simp only [each]

theorem reads?_eq (config : Config) (name : String) (root : Node) :
    reads? config name root = some () := by
  unfold reads?
  split
  · exact Check.Naming.reads?_eq root
  · split
    · exact Check.Duplication.reads?_eq config.duplication root
    · rfl

theorem guarded_eq_builtin (config : Config) : guarded config = builtin config := by
  rw [guarded]
  conv => rhs; rw [← List.map_id (builtin config)]
  apply List.map_congr_left
  intro analyzer _
  exact guardedBy_eq analyzer (reads?_eq config analyzer.name)

end Analyzer

end SharpLint
