import Mathlib.Data.List.Perm.Basic
import SharpLint.Check.Naming
import SharpLint.Proofs.Tree.Paths

/-!
# The rules of naming

Ten rules are about names. Each looks at some of the declared tokens (`rulesFor`), objects to some
names (`Misnamed`) and proposes others instead (`proposal`). The check goes from node to node;
`issues_perm` sorts what it finds by token, and `slotIssues_reports` says what it finds about a
token: an issue for every rule that looks at it and objects to its name.
-/

namespace SharpLint

namespace Node

/-- Which of the tokens that a node declares is meant. -/
inductive Slot where
  | identifier
  | parameter (index : Nat)
  | declarator (index : Nat)
deriving DecidableEq

/-- Where a token is declared: the path to a node, and which of the node's tokens it is. -/
structure Site where
  path : List Nat
  slot : Slot
deriving DecidableEq

def Label.token? (label : Label) : Slot → Option Token
  | .identifier => label.identifier
  | .parameter index => label.parameters[index]?
  | .declarator index => label.declarators[index]?

def Label.slots (label : Label) : List Slot :=
  .identifier :: (label.parameters.zipIdx.map (.parameter ·.2) ++
    label.declarators.zipIdx.map (.declarator ·.2))

def sites (root : Node) : List Site :=
  root.paths.flatMap fun path =>
    (Tree.at? path root).toList.flatMap fun node => node.label.slots.map (⟨path, ·⟩)

end Node

namespace Check.Naming

open Names

/-! ## What the rules say -/

/-- The parameters that the strings in the body of a method show, as often as they do. -/
def shownParameters (node : Node) : List Nat :=
  match node.body? with
  | none => []
  | some body => (bodyPlaceholders body).filterMap (shownParameter? node.label.parameters)

/-- The rules that look at the token in a slot of a node. -/
def rulesFor (node : Node) : Node.Slot → List Rule
  | .identifier =>
    match node.kind with
    | .classDecl => [.classPascalCase]
    | .interfaceDecl => [.interfacePascalCase]
    | .methodDecl => [.methodPascalCase] ++ if node.hasModifier .async then [.asyncSuffix] else []
    | _ => []
  | .parameter index =>
    if node.kind = .methodDecl then
      [.parameterUnderscore, .parameterCamelCase] ++
        if index ∈ shownParameters node then [.placeholderParameter] else []
    else []
  | .declarator _ =>
    if node.kind = .fieldDecl then
      [.fieldPrefix] ++ (if node.isPrivate then [.privateFieldUnderscore] else []) ++
        [.fieldCamelCase]
    else []

def Misspelled (keywords : KeywordTable) (isCase : String → Bool) (name : String) : Prop :=
  keywords.contains name = false ∧ isCase name = false

def Underscored (name : String) : Prop := startsWith (· == '_') name.toList = true

def afterFirst (name : String) : String := String.ofList name.toList.tail

def Misnamed (keywords : KeywordTable) (name : String) : Rule → Prop
  | .classPascalCase | .interfacePascalCase | .methodPascalCase =>
    Misspelled keywords isPascalCase name
  | .asyncSuffix => ¬"Async".toList <:+ name.toList
  | .parameterUnderscore => Underscored name ∧ name.toList.dropWhile (· == '_') ≠ []
  | .parameterCamelCase => ¬Underscored name ∧ Misspelled keywords isCamelCase name
  | .placeholderParameter => name ≠ "_" ∧ Misspelled keywords isCamelCase name
  | .fieldPrefix => startsWith (fun c => c = 'p' || c = 'P') name.toList = true
  | .privateFieldUnderscore => ¬Underscored name
  | .fieldCamelCase =>
    Underscored name ∧ afterFirst name ≠ "" ∧ Misspelled keywords isCamelCase (afterFirst name)
  | _ => False

def proposal (name : String) : Rule → String
  | .asyncSuffix => name ++ "Async"
  | .parameterUnderscore => toCamelCase (String.ofList (name.toList.dropWhile (· == '_')))
  | .parameterCamelCase | .placeholderParameter => toCamelCase name
  | .fieldPrefix =>
    if name.toList.tail.isEmpty then "_value" else "_" ++ toCamelCase (afterFirst name)
  | .privateFieldUnderscore => "_" ++ toCamelCase name
  | .fieldCamelCase => "_" ++ toCamelCase (afterFirst name)
  | _ => toPascalCase name

/-- The issue is a failure at the token, and proposes another name for it. -/
structure Proposes (issue : Issue) (token : Token) (replacement : String) : Prop where
  failing : issue.passed = false
  line : issue.line = token.span.startLine
  column : issue.column = token.span.startColumn
  snippet : issue.snippet = token.text
  suggestion : issue.suggestion = "Rename to '" ++ replacement ++ "'"

theorem proposes_rename (rule : Rule) (token : Token) (description replacement : String) :
    Proposes (rename rule token description replacement) token replacement := by
  refine ⟨rfl, rfl, rfl, rfl, ?_⟩
  simp [rename, Issue.violation, Issue.failing, toString]

/-! ## Issues by token -/

def placeholderIssue? (keywords : KeywordTable) (node : Node) (parameter : Token) (index : Nat) :
    Option Issue :=
  let name := bareName parameter
  if !(shownParameters node).contains index || name == "_" || keywords.contains name ||
      isCamelCase name then
    none
  else
    some (rename .placeholderParameter parameter
      s!"Parameter '{name}' is used in a string placeholder but is not camelCase"
      (toCamelCase name))

def parameterSlotIssues (keywords : KeywordTable) (node : Node) (index : Nat)
    (parameter : Token) : List Issue :=
  parameterIssues keywords parameter ++ (placeholderIssue? keywords node parameter index).toList

def slotIssues (keywords : KeywordTable) (node : Node) : Node.Slot → List Issue
  | .identifier =>
    match node.kind with
    | .classDecl | .interfaceDecl => typeIssues keywords node
    | .methodDecl => methodNameIssues keywords node
    | _ => []
  | .parameter index =>
    if node.kind = .methodDecl then
      node.label.parameters[index]?.toList.flatMap (parameterSlotIssues keywords node index)
    else []
  | .declarator index =>
    if node.kind = .fieldDecl then
      node.label.declarators[index]?.toList.flatMap (fieldNameIssues keywords node.isPrivate)
    else []

def issuesAt (keywords : KeywordTable) (root : Node) (site : Node.Site) : List Issue :=
  (Tree.at? site.path root).toList.flatMap (slotIssues keywords · site.slot)

theorem placeholderIssues_eq (keywords : KeywordTable) (node : Node) :
    placeholderIssues keywords node =
      node.label.parameters.zipIdx.filterMap fun numbered =>
        placeholderIssue? keywords node numbered.1 numbered.2 := by
  unfold placeholderIssues placeholderIssue? shownParameters
  cases node.body? with
  | none => simp
  | some body => rfl

theorem flatMap_numbered {α : Type} (tokens : List α) (reported : Nat → α → List Issue) :
    tokens.zipIdx.flatMap (fun numbered =>
        tokens[numbered.2]?.toList.flatMap (reported numbered.2)) =
      tokens.zipIdx.flatMap fun numbered => reported numbered.2 numbered.1 := by
  apply List.flatMap_congr
  rintro ⟨token, index⟩ numbered
  dsimp only
  rw [List.mk_mem_zipIdx_iff_getElem?.mp numbered, Option.toList_some, List.flatMap_singleton]

theorem flatMap_fst_zipIdx {α : Type} (tokens : List α) (reported : α → List Issue) :
    tokens.zipIdx.flatMap (fun numbered => reported numbered.1) = tokens.flatMap reported := by
  rw [← List.flatMap_map (f := Prod.fst), List.zipIdx_map_fst]

section

variable (keywords : KeywordTable) (node : Node)

theorem methodIssues_perm :
    (methodIssues keywords node).Perm (methodNameIssues keywords node ++
      node.label.parameters.zipIdx.flatMap fun numbered =>
        parameterSlotIssues keywords node numbered.2 numbered.1) := by
  rw [methodIssues, placeholderIssues_eq, ← flatMap_fst_zipIdx, List.filterMap_eq_flatMap_toList,
    List.append_assoc]
  -- The check lists shown parameters after all others; here each stands with its own token.
  exact (List.flatMap_append_perm _ _ _).append_left _

theorem flatMap_parameters :
    (node.label.parameters.zipIdx.map (Node.Slot.parameter ·.2)).flatMap
        (slotIssues keywords node) =
      if node.kind = .methodDecl then
        node.label.parameters.zipIdx.flatMap fun numbered =>
          parameterSlotIssues keywords node numbered.2 numbered.1
      else [] := by
  rw [List.flatMap_map]
  by_cases method : node.kind = .methodDecl
  · rw [if_pos method, ← flatMap_numbered]
    exact List.flatMap_congr fun numbered _ => if_pos method
  · rw [if_neg method]
    exact List.flatMap_eq_nil_iff.mpr fun numbered _ => if_neg method

theorem flatMap_declarators :
    (node.label.declarators.zipIdx.map (Node.Slot.declarator ·.2)).flatMap
        (slotIssues keywords node) =
      if node.kind = .fieldDecl then fieldIssues keywords node else [] := by
  rw [List.flatMap_map]
  by_cases field : node.kind = .fieldDecl
  · rw [if_pos field, fieldIssues, ← flatMap_fst_zipIdx node.label.declarators,
      ← flatMap_numbered _ fun _ => fieldNameIssues keywords node.isPrivate]
    exact List.flatMap_congr fun numbered _ => if_pos field
  · rw [if_neg field]
    exact List.flatMap_eq_nil_iff.mpr fun numbered _ => if_neg field

theorem nodeIssues_perm :
    (nodeIssues keywords node).Perm (node.label.slots.flatMap (slotIssues keywords node)) := by
  rw [Node.Label.slots, List.flatMap_cons, List.flatMap_append, flatMap_parameters,
    flatMap_declarators, slotIssues, nodeIssues]
  split
  · rename_i kind
    simp [kind]
  · rename_i kind
    simp [kind]
  · rename_i kind
    simpa [kind] using methodIssues_perm keywords node
  · rename_i kind
    simp [kind]
  · rename_i noClass noInterface noMethod noField
    rw [if_neg noMethod, if_neg noField]
    split
    · contradiction
    · contradiction
    · contradiction
    · exact .nil

theorem issues_perm (root : Node) :
    (issues keywords root).Perm (root.sites.flatMap (issuesAt keywords root)) := by
  rw [issues, ← Tree.filterMap_at?_paths, List.filterMap_eq_flatMap_toList, List.flatMap_assoc,
    Node.sites, List.flatMap_assoc]
  apply List.Perm.flatMap_left
  intro path _
  cases found : Tree.at? path root with
  | none => exact .nil
  | some node =>
      simp only [Option.toList_some, List.flatMap_singleton]
      have same : (node.label.slots.map (⟨path, ·⟩)).flatMap (issuesAt keywords root) =
          node.label.slots.flatMap (slotIssues keywords node) := by
        rw [List.flatMap_map]
        simp [issuesAt, found]
      rw [same]
      exact nodeIssues_perm keywords node

end

/-! ## Issues by rule -/

/-- The issues are about the token. Each of the rules has one if it objects to the token's name, and
proposes another name in it. -/
structure Reports (keywords : KeywordTable) (token : Token) (rules : List Rule)
    (issues : List Issue) : Prop where
  sound : ∀ issue ∈ issues, issue.rule ∈ rules ∧ Misnamed keywords (bareName token) issue.rule ∧
    ∃ description,
      issue = rename issue.rule token description (proposal (bareName token) issue.rule)
  complete : ∀ rule ∈ rules, Misnamed keywords (bareName token) rule →
    ∃ issue ∈ issues, issue.rule = rule

namespace Reports

variable {keywords : KeywordTable} {token : Token} {rule : Rule} {rules others : List Rule}
  {issues more : List Issue} {condition : Prop} [Decidable condition] {description : String}

theorem exists_iff (reports : Reports keywords token rules issues) :
    (∃ issue ∈ issues, issue.rule = rule) ↔
      rule ∈ rules ∧ Misnamed keywords (bareName token) rule := by
  constructor
  · rintro ⟨issue, listed, rfl⟩
    obtain ⟨looked, misnamed, -⟩ := reports.sound issue listed
    exact ⟨looked, misnamed⟩
  · rintro ⟨looked, misnamed⟩
    exact reports.complete rule looked misnamed

theorem append (reports : Reports keywords token rules issues)
    (alsoReports : Reports keywords token others more) :
    Reports keywords token (rules ++ others) (issues ++ more) where
  sound := by
    intro issue member
    rcases List.mem_append.mp member with first | second
    · exact (reports.sound issue first).imp_left (List.mem_append_left others)
    · exact (alsoReports.sound issue second).imp_left (List.mem_append_right rules)
  complete := by
    intro rule member misnamed
    rcases List.mem_append.mp member with first | second
    · obtain ⟨issue, listed, same⟩ := reports.complete rule first misnamed
      exact ⟨issue, List.mem_append_left more listed, same⟩
    · obtain ⟨issue, listed, same⟩ := alsoReports.complete rule second misnamed
      exact ⟨issue, List.mem_append_right issues listed, same⟩

theorem single (misnamed : Misnamed keywords (bareName token) rule) :
    Reports keywords token [rule]
      [rename rule token description (proposal (bareName token) rule)] where
  sound := by
    intro issue member
    rw [List.mem_singleton.mp member]
    exact ⟨List.mem_singleton_self rule, misnamed, description, rfl⟩
  complete := by
    intro other member _
    exact ⟨_, List.mem_singleton_self _, (List.mem_singleton.mp member).symm⟩

theorem silent (fine : ∀ rule ∈ rules, ¬Misnamed keywords (bareName token) rule) :
    Reports keywords token rules [] where
  sound := by simp
  complete := fun rule member misnamed => absurd misnamed (fine rule member)

theorem widen (reports : Reports keywords token rules issues) (included : rules ⊆ others)
    (fine : ∀ rule ∈ others, rule ∉ rules → ¬Misnamed keywords (bareName token) rule) :
    Reports keywords token others issues where
  sound := fun issue member => (reports.sound issue member).imp_left (included ·)
  complete := by
    intro rule member misnamed
    by_cases looked : rule ∈ rules
    · exact reports.complete rule looked misnamed
    · exact absurd misnamed (fine rule member looked)

theorem whenBroken (decides : condition ↔ Misnamed keywords (bareName token) rule) :
    Reports keywords token [rule]
      (if condition then [rename rule token description (proposal (bareName token) rule)]
        else []) := by
  split
  · rename_i holds
    exact single (decides.mp holds)
  · rename_i fails
    exact silent (by simpa using mt decides.mpr fails)

theorem unlessFine (decides : condition ↔ ¬Misnamed keywords (bareName token) rule) :
    Reports keywords token [rule]
      (if condition then []
        else [rename rule token description (proposal (bareName token) rule)]) := by
  rw [← ite_not]
  exact whenBroken (not_iff_comm.mp decides.symm)

end Reports

section

variable {keywords : KeywordTable} {node : Node} {token : Token} {slot : Node.Slot}

theorem exempt_iff {isCase : String → Bool} {name : String} :
    (keywords.contains name || isCase name) = true ↔ ¬Misspelled keywords isCase name := by
  simp [Misspelled, imp_iff_not_or]

theorem typeIssues_reports (declared : node.label.identifier = some token) :
    Reports keywords token
      [if node.kind = .interfaceDecl then .interfacePascalCase else .classPascalCase]
      (typeIssues keywords node) := by
  rw [typeIssues, declared]
  dsimp only
  by_cases isInterface : node.kind = .interfaceDecl
  · rw [if_pos isInterface, if_pos isInterface]
    exact .unlessFine exempt_iff
  · rw [if_neg isInterface, if_neg isInterface]
    exact .unlessFine exempt_iff

theorem methodNameIssues_reports (declared : node.label.identifier = some token) :
    Reports keywords token
      ([.methodPascalCase] ++ if node.hasModifier .async then [.asyncSuffix] else [])
      (methodNameIssues keywords node) := by
  rw [methodNameIssues, declared]
  refine .append (.unlessFine exempt_iff) ?_
  cases node.hasModifier .async with
  | false => exact .silent (by simp)
  | true => exact .whenBroken (by simp [Misnamed, ← List.isSuffixOf_iff_suffix])

theorem parameterIssues_reports :
    Reports keywords token [.parameterUnderscore, .parameterCamelCase]
      (parameterIssues keywords token) := by
  unfold parameterIssues
  dsimp only
  split
  · rename_i underscored
    have noCamel : ¬Misnamed keywords (bareName token) .parameterCamelCase := by
      simp [Misnamed, Underscored, underscored]
    split
    · rename_i nothingLeft
      exact .silent (by simpa [Misnamed, nothingLeft] using noCamel)
    · rename_i somethingLeft
      have misnamed : Misnamed keywords (bareName token) .parameterUnderscore :=
        ⟨underscored, somethingLeft⟩
      exact (Reports.single misnamed).widen (by simp) (by simpa using noCamel)
  · rename_i unmarked
    have bare : ¬Underscored (bareName token) := unmarked
    have noUnderscore : ¬Misnamed keywords (bareName token) .parameterUnderscore := by
      simp [Misnamed, bare]
    have decides : (keywords.contains (bareName token) || isCamelCase (bareName token)) = true ↔
        ¬Misnamed keywords (bareName token) .parameterCamelCase := by
      rw [exempt_iff, Misnamed, and_iff_right bare]
    exact (Reports.unlessFine decides).widen (by simp) (by simpa using noUnderscore)

theorem placeholderIssue?_reports (index : Nat) :
    Reports keywords token
      (if index ∈ shownParameters node then [.placeholderParameter] else [])
      (placeholderIssue? keywords node token index).toList := by
  unfold placeholderIssue?
  dsimp only
  rw [apply_ite Option.toList]
  by_cases shown : index ∈ shownParameters node
  · rw [if_pos shown]
    refine .unlessFine ?_
    simp [Misnamed, Misspelled, shown, or_assoc, imp_iff_not_or]
  · rw [if_neg shown, if_pos (by simp [shown])]
    exact .silent (by simp)

theorem fieldNameIssues_reports (isPrivate : Bool) :
    Reports keywords token
      ([.fieldPrefix] ++ (if isPrivate then [.privateFieldUnderscore] else []) ++ [.fieldCamelCase])
      (fieldNameIssues keywords isPrivate token) := by
  refine .append (.append ?_ ?_) ?_
  · cases characters : (bareName token).toList with
    | nil => exact .silent (by simp [Misnamed, startsWith, characters])
    | cons c cs =>
        have proposed : proposal (bareName token) .fieldPrefix =
            if cs.isEmpty then "_value" else "_" ++ toCamelCase (String.ofList cs) := by
          simp [proposal, afterFirst, characters]
        dsimp only
        rw [← proposed]
        exact .whenBroken (by simp [Misnamed, startsWith, characters])
  · cases isPrivate with
    | false => exact .silent (by simp)
    | true => exact .whenBroken (by simp [Misnamed, Underscored])
  · split
    · rename_i c cs characters
      have proposed : proposal (bareName token) .fieldCamelCase =
          "_" ++ toCamelCase (String.ofList (c :: cs)) := by
        simp [proposal, afterFirst, characters]
      have after : afterFirst (bareName token) = String.ofList (c :: cs) := by
        rw [afterFirst, characters, List.tail_cons]
      have marked : Underscored (bareName token) := by simp [Underscored, characters, startsWith]
      dsimp only
      rw [← proposed]
      refine .unlessFine ?_
      rw [exempt_iff, Misnamed, after, and_iff_right marked, and_iff_right (by simp)]
    · rename_i short
      refine .silent ?_
      rintro rule (_ | ⟨_, ⟨⟩⟩) ⟨marked, nonempty, -⟩
      cases characters : (bareName token).toList with
      | nil => simp [Underscored, startsWith, characters] at marked
      | cons first rest =>
          cases rest with
          | nil => simp [afterFirst, characters] at nonempty
          | cons c cs =>
              simp only [Underscored, startsWith, characters, List.head?_cons, Option.map_some,
                Option.getD_some, beq_iff_eq] at marked
              exact short c cs (marked ▸ characters)

theorem slotIssues_reports (declared : node.label.token? slot = some token) :
    Reports keywords token (rulesFor node slot) (slotIssues keywords node slot) := by
  cases slot with
  | identifier =>
      rw [slotIssues, rulesFor]
      split
      · rename_i kind
        simpa [kind] using typeIssues_reports declared
      · rename_i kind
        simpa [kind] using typeIssues_reports declared
      · exact methodNameIssues_reports declared
      · exact .silent (by simp)
  | parameter index =>
      rw [Node.Label.token?] at declared
      rw [slotIssues, rulesFor, declared, Option.toList_some, List.flatMap_singleton]
      split
      · exact .append parameterIssues_reports (placeholderIssue?_reports index)
      · exact .silent (by simp)
  | declarator index =>
      rw [Node.Label.token?] at declared
      rw [slotIssues, rulesFor, declared, Option.toList_some, List.flatMap_singleton]
      split
      · exact fieldNameIssues_reports node.isPrivate
      · exact .silent (by simp)

theorem slotIssues_of_none (none : node.label.token? slot = none) :
    slotIssues keywords node slot = [] := by
  cases slot with
  | identifier =>
      rw [Node.Label.token?] at none
      rw [slotIssues, typeIssues, methodNameIssues, none]
      split <;> rfl
  | parameter index =>
      rw [Node.Label.token?] at none
      rw [slotIssues, none]
      exact ite_self _
  | declarator index =>
      rw [Node.Label.token?] at none
      rw [slotIssues, none]
      exact ite_self _

end

end Check.Naming

end SharpLint
