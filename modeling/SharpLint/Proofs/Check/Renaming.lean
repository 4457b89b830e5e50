import SharpLint.Proofs.Check.NamingRules
import SharpLint.Proofs.Check.Reports
import SharpLint.Proofs.Names.Identifiers

/-!
# Renaming tokens as proposed

A token is renamed at its site, and nothing else in the tree changes (`Node.respell`). When the new
name is the one that an issue proposes, the rule has nothing more to say about the token, unless the
name is one that no spelling brings into its case (`Unrepaired`):

* `misnamed_proposal_iff`: for a name by itself;
* `reported_again_iff`: for a token in a slot of a node, where a parameter may also no longer be the
  one that the strings of the method show;
* `renaming_repairs`: for all issues about a tree.
-/

namespace SharpLint

/-! ## Tokens -/

namespace Node

def Label.respell (text : String) (label : Label) : Slot → Label
  | .identifier => { label with identifier := label.identifier.map ({ · with text }) }
  | .parameter index => { label with parameters := label.parameters.modify index ({ · with text }) }
  | .declarator index =>
    { label with declarators := label.declarators.modify index ({ · with text }) }

def respell (text : String) (site : Site) (root : Node) : Node :=
  root.relabelAt (·.respell text site.slot) site.path

def token? (root : Node) (site : Site) : Option Token :=
  (Tree.at? site.path root).bind (·.label.token? site.slot)

theorem at?_respell (text : String) (root : Node) (site : Site) :
    Tree.at? site.path (root.respell text site) =
      (Tree.at? site.path root).map fun (node : Node) => node.respell text ⟨[], site.slot⟩ :=
  Tree.at?_relabelAt _ _ _

theorem token?_respell (text : String) (node : Node) (slot : Slot) :
    (node.respell text ⟨[], slot⟩).label.token? slot =
      (node.label.token? slot).map ({ · with text }) := by
  cases slot with
  | identifier => rfl
  | parameter index => exact List.getElem?_modify_eq _ _ _
  | declarator index => exact List.getElem?_modify_eq _ _ _

theorem slots_respell (text : String) (node : Node) (slot : Slot) :
    (node.respell text ⟨[], slot⟩).label.slots = node.label.slots := by
  have numbers (make : Nat → Slot) (tokens : List Token) :
      tokens.zipIdx.map (make ·.2) = (List.range tokens.length).map make := by
    rw [List.range_eq_range', ← List.zipIdx_map_snd, List.map_map]
    rfl
  cases slot with
  | identifier => rfl
  | parameter index =>
      simp [respell, Tree.relabelAt, Tree.label, Label.slots, numbers, Label.respell]
  | declarator index =>
      simp [respell, Tree.relabelAt, Tree.label, Label.slots, numbers, Label.respell]

theorem mem_sites {root : Node} {site : Site} :
    site ∈ root.sites ↔ site.path ∈ root.paths ∧
      ∃ node : Node, Tree.at? site.path root = some node ∧ site.slot ∈ node.label.slots := by
  obtain ⟨path, slot⟩ := site
  simp [sites]

theorem mem_sites_respell {root : Node} {site : Site} (text : String) (member : site ∈ root.sites) :
    site ∈ (root.respell text site).sites := by
  obtain ⟨reached, node, found, listed⟩ := mem_sites.mp member
  have renamed : Tree.at? site.path (root.respell text site) =
      some (respell text ⟨[], site.slot⟩ node) := by
    rw [at?_respell, found, Option.map_some]
  refine mem_sites.mpr ⟨?_, _, renamed, ?_⟩
  · rw [Tree.mem_paths, renamed]
    exact ⟨(Tree.mem_paths.mp reached).1, rfl⟩
  · rwa [slots_respell]

theorem token_mem_declaredTokens {node : Node} {slot : Slot} {token : Token}
    (declared : node.label.token? slot = some token) : token ∈ node.declaredTokens := by
  rw [declaredTokens, List.mem_append, List.mem_append]
  cases slot with
  | identifier => exact .inl (.inl (Option.mem_toList.mpr declared))
  | parameter index => exact .inl (.inr (List.mem_of_getElem? declared))
  | declarator index => exact .inr (List.mem_of_getElem? declared)

end Node

namespace Check.Naming

open Names Text

variable {keywords : KeywordTable} {name text : String} {rule : Rule}

/-! ## Names -/

/-- The rule reports a token that has the name it proposes instead of the given one: without a
letter at the start there is nothing to spell as a capital or small letter. Strings do not show
names that start with a digit, so that a parameter is safe if its name has a letter or digit. -/
def Unrepaired (keywords : KeywordTable) (name : String) : Rule → Prop
  | .classPascalCase | .interfacePascalCase | .methodPascalCase =>
    ¬LetterFirst name ∧ keywords.contains (toPascalCase name) = false
  | .fieldCamelCase =>
    ¬LetterFirst name ∧ keywords.contains (toCamelCase (afterFirst name)) = false
  | .placeholderParameter => ∀ c ∈ name.toList, c = '_'
  | _ => False

theorem underscored_iff : Underscored name ↔ ∃ cs, name.toList = '_' :: cs := by
  cases characters : name.toList with
  | nil => simp [Underscored, startsWith, characters]
  | cons c cs => simp [Underscored, startsWith, characters]

theorem underscored_append (name : String) : Underscored ("_" ++ name) :=
  underscored_iff.mpr ⟨name.toList, String.toList_append⟩

theorem afterFirst_append (name : String) : afterFirst ("_" ++ name) = name := by
  rw [afterFirst, String.toList_append]
  exact String.ofList_toList

theorem letterFirst_of_isIdentifierName (identifier : isIdentifierName name.toList = true)
    (bare : ¬Underscored name) : LetterFirst name := by
  rw [underscored_iff] at bare
  cases characters : name.toList with
  | nil => simp [characters, isIdentifierName] at identifier
  | cons c cs =>
      have other : c ≠ '_' := by
        rintro rfl
        exact bare ⟨cs, characters⟩
      simp only [characters, isIdentifierName, other, decide_false, Bool.or_false,
        Bool.and_eq_true] at identifier
      have letter := identifier.1
      have plain : c.isAlphanum = true := by simp [Char.isAlphanum, letter]
      have alphanumeric : isAlphanumeric c = true := by
        rw [isAlphanumeric_of_ascii (isAscii_of_isAlphanum plain), plain]
      exact ⟨c, by rw [characters, List.find?_cons_of_pos alphanumeric], letter⟩

theorem letterFirst_afterFirst (marked : Underscored name) :
    LetterFirst (afterFirst name) ↔ LetterFirst name := by
  obtain ⟨cs, characters⟩ := underscored_iff.mp marked
  have skipped : isAlphanumeric '_' = false := by decide
  simp [LetterFirst, afterFirst, characters, skipped]

theorem not_underscored_of_plain (plain : Plain name.toList) : ¬Underscored name := by
  intro marked
  obtain ⟨cs, characters⟩ := underscored_iff.mp marked
  have first := plain '_' (characters ▸ List.mem_cons_self)
  exact absurd first (by decide)

theorem misspelled_toPascalCase (ascii : Ascii name.toList) :
    Misspelled keywords isPascalCase (toPascalCase name) ↔
      ¬LetterFirst name ∧ keywords.contains (toPascalCase name) = false := by
  rw [Misspelled, and_comm, ← isPascalCase_toPascalCase ascii, Bool.not_eq_true]

theorem misspelled_toCamelCase (ascii : Ascii name.toList) :
    Misspelled keywords isCamelCase (toCamelCase name) ↔
      ¬LetterFirst name ∧ keywords.contains (toCamelCase name) = false := by
  rw [Misspelled, and_comm, ← isCamelCase_toCamelCase ascii, Bool.not_eq_true]

theorem toCamelCase_eq_empty (ascii : Ascii name.toList) (empty : toCamelCase name = "") :
    name = "" := by
  cases found : name.toList.find? isAlphanumeric with
  | none => rwa [toCamelCase_of_find? found] at empty
  | some c =>
      obtain ⟨cs, -, -, spelled⟩ := exists_respelling ascii found
      simp [spelled] at empty

theorem not_underscored_stripped (wordlike : Wordlike name.toList)
    (left : name.toList.dropWhile (· == '_') ≠ []) :
    ¬Underscored (toCamelCase (String.ofList (name.toList.dropWhile (· == '_')))) := by
  have part : Wordlike (name.toList.dropWhile (· == '_')) :=
    wordlike.subset (List.dropWhile_subset _)
  obtain ⟨c, cs, characters⟩ := List.exists_cons_of_ne_nil left
  have other : c ≠ '_' := by
    have first := List.head_dropWhile_not (· == '_') left
    simpa [characters] using first
  rw [characters] at part ⊢
  have alphanumeric : isAlphanumeric c = true := by
    rw [← Bool.not_eq_false, part.isAlphanumeric_eq_false_iff List.mem_cons_self]
    exact other
  have found : (String.ofList (c :: cs)).toList.find? isAlphanumeric = some c := by
    rw [String.toList_ofList, List.find?_cons_of_pos alphanumeric]
  obtain ⟨rest, plain, -, spelled⟩ := exists_respelling (by simpa using part.ascii) found
  rw [spelled]
  apply not_underscored_of_plain
  rw [String.toList_ofList]
  exact plain.toLower_cons

theorem misnamed_proposal_iff (identifier : isIdentifierName name.toList = true)
    (misnamed : Misnamed keywords name rule) (other : rule ≠ .placeholderParameter) :
    Misnamed keywords (proposal name rule) rule ↔ Unrepaired keywords name rule := by
  have wordlike := wordlike_of_isIdentifierName identifier
  cases rule with
  | classPascalCase | interfacePascalCase | methodPascalCase =>
      exact misspelled_toPascalCase wordlike.ascii
  | asyncSuffix =>
      have suffix : "Async".toList <:+ (name ++ "Async").toList := by
        rw [String.toList_append]
        exact List.suffix_append _ _
      exact iff_of_false (not_not_intro suffix) id
  | parameterUnderscore =>
      obtain ⟨-, left⟩ := misnamed
      exact iff_of_false (fun again => not_underscored_stripped wordlike left again.1) id
  | parameterCamelCase =>
      -- An identifier that starts with no underscore starts with a letter.
      have letter := letterFirst_of_isIdentifierName identifier misnamed.1
      refine iff_of_false ?_ id
      rintro ⟨-, misspelled⟩
      exact ((misspelled_toCamelCase wordlike.ascii).mp misspelled).1 letter
  | placeholderParameter => contradiction
  | fieldPrefix =>
      refine iff_of_false ?_ id
      unfold proposal
      dsimp only
      split
      · simp [Misnamed, startsWith]
      · simp [Misnamed, startsWith]
  | privateFieldUnderscore => exact iff_of_false (not_not_intro (underscored_append _)) id
  | fieldCamelCase =>
      obtain ⟨marked, left, -⟩ := misnamed
      have after : Ascii (afterFirst name).toList := by
        rw [afterFirst, String.toList_ofList]
        exact (wordlike.subset (List.tail_subset _)).ascii
      rw [Misnamed, proposal, afterFirst_append, and_iff_right (underscored_append _),
        and_iff_right (mt (toCamelCase_eq_empty after) left), misspelled_toCamelCase after,
        letterFirst_afterFirst marked]
      rfl
  | _ => exact misnamed.elim

theorem wordlike_proposal (wordlike : Wordlike name.toList) (rule : Rule) :
    Wordlike (proposal name rule).toList := by
  have marked {name : String} (wordlike : Wordlike name.toList) :
      Wordlike ("_" ++ toCamelCase name).toList := by
    rw [String.toList_append]
    exact .append (by decide) wordlike.toCamelCase
  have after : Wordlike (afterFirst name).toList := by
    rw [afterFirst, String.toList_ofList]
    exact wordlike.subset (List.tail_subset _)
  unfold proposal
  split
  · rw [String.toList_append]
    exact wordlike.append (by decide)
  · apply Wordlike.toCamelCase
    rw [String.toList_ofList]
    exact wordlike.subset (List.dropWhile_subset _)
  · exact wordlike.toCamelCase
  · exact wordlike.toCamelCase
  · split
    · decide
    · exact marked after
  · exact marked wordlike
  · exact marked after
  · exact wordlike.toPascalCase

/-! ## Nodes -/

variable {node root : Node} {slot : Node.Slot} {token : Token} {issue : Issue}

theorem isIdentifierName_bareName (identifier : isIdentifier token.text = true) :
    isIdentifierName (bareName token).toList = true := by
  have unmarked {cs : List Char} (identifier : isIdentifierName cs = true) :
      cs.dropWhile (· == '@') = cs := by
    cases cs with
    | nil => rfl
    | cons c cs =>
        have other : c ≠ '@' := by
          rintro rfl
          simp [isIdentifierName] at identifier
        exact List.dropWhile_cons_of_neg (by simpa using other)
  rw [bareName, String.toList_ofList]
  unfold isIdentifier at identifier
  split at identifier
  · rename_i name characters
    rw [characters, List.dropWhile_cons_of_pos (by rfl), unmarked identifier]
    exact identifier
  · rw [unmarked identifier]
    exact identifier

theorem bareName_of_wordlike (wordlike : Wordlike text.toList) :
    bareName { token with text } = text := by
  rw [bareName]
  dsimp only
  cases characters : text.toList with
  | nil => exact (String.toList_eq_nil_iff.mp characters).symm
  | cons c cs =>
      have other : c ≠ '@' := by
        rintro rfl
        exact absurd (wordlike '@' (characters ▸ List.mem_cons_self)) (by decide)
      rw [List.dropWhile_cons_of_neg (by simpa using other), ← characters, String.ofList_toList]

theorem mem_rulesFor_respell (other : rule ≠ .placeholderParameter) :
    rule ∈ rulesFor (node.respell text ⟨[], slot⟩) slot ↔
      rule ∈ rulesFor node slot := by
  cases slot with
  | identifier => exact Iff.rfl
  | declarator index => exact Iff.rfl
  | parameter index =>
      have always (node : Node) : rule ∈ rulesFor node (.parameter index) ↔
          node.kind = .methodDecl ∧ rule ∈ [.parameterUnderscore, .parameterCamelCase] := by
        unfold rulesFor
        dsimp only
        split
        · rename_i method
          rw [and_iff_right method, List.mem_append, or_iff_left]
          split
          · simpa using other
          · simp
        · simp [*]
      rw [always, always]
      exact Iff.rfl

theorem placeholderParameter_mem_rulesFor :
    .placeholderParameter ∈ rulesFor node slot ↔
      ∃ index, slot = .parameter index ∧ node.kind = .methodDecl ∧
        index ∈ shownParameters node := by
  cases slot with
  | identifier => grind [rulesFor]
  | declarator index => grind [rulesFor]
  | parameter index => grind [rulesFor]

/-! ## Shown parameters -/

theorem mem_shownParameters {index : Nat} :
    index ∈ shownParameters node ↔ ∃ body, node.body? = some body ∧
      ∃ placeholder ∈ bodyPlaceholders body,
        shownParameter? node.label.parameters placeholder = some index := by
  unfold shownParameters
  cases node.body? with
  | none => simp
  | some body => simp

theorem not_isDigit_of_mem_bodyPlaceholders {body : Node} {placeholder : String}
    (member : placeholder ∈ bodyPlaceholders body) :
    ∀ c ∈ placeholder.toList.head?, c.isDigit = false := by
  obtain ⟨literal, -, listed⟩ := List.mem_flatMap.mp member
  split at listed
  · cases shown : literal.text with
    | none => simp [shown] at listed
    | some text =>
        rw [shown] at listed
        exact not_isDigit_of_placeholder listed
  · simp at listed

theorem not_mem_shownParameters {index : Nat} {c : Char}
    (declared : node.label.parameters[index]? = some token)
    (first : (bareName token).toList.head? = some c) (digit : c.isDigit = true)
    (noLetter : c.isAlpha = false) : index ∉ shownParameters node := by
  intro shown
  obtain ⟨body, -, placeholder, listed, found⟩ := mem_shownParameters.mp shown
  obtain ⟨inside, same, -⟩ := List.findIdx?_eq_some_iff_getElem.mp found
  obtain ⟨_, rfl⟩ := List.getElem?_eq_some_iff.mp declared
  have heads := congrArg List.head? (beq_iff_eq.mp same)
  rw [List.head?_map, List.head?_map, first, Option.map_some] at heads
  obtain ⟨d, other, lower⟩ := Option.map_eq_some_iff.mp heads.symm
  have alsoNoLetter : d.isAlpha = false := by
    rw [← Char.isAlpha_toLower_eq_isAlpha, lower, Char.isAlpha_toLower_eq_isAlpha, noLetter]
  rw [toLower_of_isAlpha_eq_false alsoNoLetter, toLower_of_isAlpha_eq_false noLetter] at lower
  have noDigit := not_isDigit_of_mem_bodyPlaceholders listed d other
  simp [lower, digit] at noDigit

theorem shownParameters_congr {renamed : Node} (children : renamed.children = node.children)
    (names : renamed.label.parameters.map bareName = node.label.parameters.map bareName) :
    shownParameters renamed = shownParameters node := by
  have byName (parameters : List Token) (placeholder : String) :
      shownParameter? parameters placeholder =
        (parameters.map bareName).findIdx? (sameIgnoringCase · placeholder) := by
    rw [List.findIdx?_map, shownParameter?, Function.comp_def]
  rw [shownParameters, shownParameters, Node.body?, children, funext (byName _), names,
    ← funext (byName _), Node.body?]

theorem map_bareName_respell {index : Nat} (declared : node.label.parameters[index]? = some token)
    (same : bareName { token with text } = bareName token) :
    (node.respell text ⟨[], .parameter index⟩).label.parameters.map bareName =
      node.label.parameters.map bareName := by
  have modified : (node.respell text ⟨[], .parameter index⟩).label.parameters =
      node.label.parameters.modify index ({ · with text }) := rfl
  apply List.ext_getElem?
  intro other
  rw [modified, List.getElem?_map, List.getElem?_map, List.getElem?_modify]
  by_cases here : index = other
  · rw [← here, declared]
    simp [same]
  · simp [here]

theorem shown_again_iff {index : Nat} (wordlike : Wordlike (bareName token).toList)
    (declared : node.label.parameters[index]? = some token) (shown : index ∈ shownParameters node)
    (misnamed : Misnamed keywords (bareName token) .placeholderParameter)
    (proposed : text = toCamelCase (bareName token)) :
    index ∈ shownParameters (node.respell text ⟨[], .parameter index⟩) ∧
        Misnamed keywords text .placeholderParameter ↔
      Unrepaired keywords (bareName token) .placeholderParameter := by
  have bare : bareName { token with text } = text :=
    bareName_of_wordlike (proposed ▸ wordlike.toCamelCase)
  rw [Unrepaired, ← wordlike.find?_eq_none_iff]
  cases found : (bareName token).toList.find? isAlphanumeric with
  | none =>
      -- The name stays, and so does everything that the strings show.
      rw [toCamelCase_of_find? found] at proposed
      have same : shownParameters (node.respell text ⟨[], .parameter index⟩) =
          shownParameters node :=
        shownParameters_congr rfl (map_bareName_respell declared (bare.trans proposed))
      rw [same, proposed]
      exact iff_of_true ⟨shown, misnamed⟩ rfl
  | some c =>
      -- The new name is camelCase, or starts with a digit and is not shown any more.
      refine iff_of_false ?_ (by simp)
      rintro ⟨stillShown, -, misspelled⟩
      rw [proposed] at misspelled
      have noLetter := ((misspelled_toCamelCase wordlike.ascii).mp misspelled).1
      rw [letterFirst_of_find? found, Bool.not_eq_true] at noLetter
      obtain ⟨cs, plain, -, spelled⟩ := exists_respelling wordlike.ascii found
      have digit : c.isDigit = true := by
        simpa [Char.isAlphanum, noLetter] using plain c List.mem_cons_self
      have renamed := Node.token?_respell text node (.parameter index)
      rw [Node.Label.token?, Node.Label.token?, declared, Option.map_some] at renamed
      have first : (bareName { token with text }).toList.head? = some c := by
        rw [bare, proposed, spelled, String.toList_ofList, toLower_of_isAlpha_eq_false noLetter]
        rfl
      exact not_mem_shownParameters renamed first digit noLetter stillShown

theorem reported_again_iff (declared : node.label.token? slot = some token)
    (identifier : isIdentifier token.text = true) (reported : issue ∈ slotIssues keywords node slot)
    (proposed : text = proposal (bareName token) issue.rule) :
    (∃ again ∈ slotIssues keywords (node.respell text ⟨[], slot⟩) slot, again.rule = issue.rule) ↔
      Unrepaired keywords (bareName token) issue.rule := by
  obtain ⟨looked, misnamed, -⟩ := (slotIssues_reports declared).sound issue reported
  have named := isIdentifierName_bareName identifier
  have wordlike := wordlike_of_isIdentifierName named
  have bare : bareName { token with text } = text :=
    bareName_of_wordlike (proposed ▸ wordlike_proposal wordlike issue.rule)
  have renamed : (node.respell text ⟨[], slot⟩).label.token? slot = some { token with text } := by
    rw [Node.token?_respell, declared, Option.map_some]
  rw [(slotIssues_reports renamed).exists_iff, bare]
  by_cases other : issue.rule = .placeholderParameter
  · rw [other] at looked misnamed proposed ⊢
    obtain ⟨index, rfl, method, shown⟩ := placeholderParameter_mem_rulesFor.mp looked
    have kept : (node.respell text ⟨[], .parameter index⟩).kind = .methodDecl := method
    rw [← shown_again_iff wordlike declared shown misnamed proposed,
      placeholderParameter_mem_rulesFor]
    simp [kept]
  · rw [mem_rulesFor_respell other, and_iff_right looked, proposed]
    exact misnamed_proposal_iff named misnamed other

/-! ## Trees -/

/-- The issues are about the tokens of the tree, each at its own site. When a token is renamed as an
issue proposes, the rule reports it again exactly if the name is beyond repair. -/
theorem renaming_repairs (keywords : KeywordTable) (root : Node)
    (identifiers : ∀ node ∈ root.descendants, ∀ token ∈ Node.declaredTokens node,
      isIdentifier token.text = true) :
    (∀ tree : Node, (issues keywords tree).Perm (tree.sites.flatMap (issuesAt keywords tree))) ∧
      ∀ site ∈ root.sites, ∀ issue ∈ issuesAt keywords root site,
        ∃ token description replacement, root.token? site = some token ∧
          issue = rename issue.rule token description replacement ∧
          Proposes issue token replacement ∧
          site ∈ (root.respell replacement site).sites ∧
          ((∃ again ∈ issuesAt keywords (root.respell replacement site) site,
              again.rule = issue.rule) ↔
            Unrepaired keywords (bareName token) issue.rule) := by
  refine ⟨issues_perm keywords, ?_⟩
  intro site listed issue reported
  obtain ⟨reached, node, found, -⟩ := Node.mem_sites.mp listed
  have atNode (text : String) : issuesAt keywords (root.respell text site) site =
      slotIssues keywords (node.respell text ⟨[], site.slot⟩) site.slot := by
    rw [issuesAt, Node.at?_respell, found, Option.map_some, Option.toList_some,
      List.flatMap_singleton]
  rw [issuesAt, found, Option.toList_some, List.flatMap_singleton] at reported
  cases declared : node.label.token? site.slot with
  | none =>
      rw [slotIssues_of_none declared] at reported
      cases reported
  | some token =>
      have identifier := identifiers node (Tree.mem_descendants_of_at? reached found) token
        (Node.token_mem_declaredTokens declared)
      obtain ⟨-, -, description, renames⟩ := (slotIssues_reports declared).sound issue reported
      refine ⟨token, description, _, ?_, renames, ?_, Node.mem_sites_respell _ listed, ?_⟩
      · rw [Node.token?, found, Option.bind_some, declared]
      · rw [renames]
        exact proposes_rename _ _ _ _
      · rw [atNode]
        exact reported_again_iff declared identifier reported rfl

namespace Sample

def greeting : Node :=
  .node { kind := .compilationUnit }
    [.node { kind := .classDecl, identifier := some ⟨"__", {}⟩ }
      [.node { kind := .methodDecl, identifier := some ⟨"Greet", {}⟩,
               parameters := [⟨"@User_name", {}⟩] }
        [.node { kind := .block } [Node.leaf .stringLiteral {} "\"Hello \x7buser_name\x7d\""]]]]

def classSite : Node.Site := ⟨[0], .identifier⟩

def parameterSite : Node.Site := ⟨[0, 0], .parameter 0⟩

theorem greeting_identifiers : ∀ node ∈ greeting.descendants,
    ∀ token ∈ Node.declaredTokens node, isIdentifier token.text = true := by
  decide

end Sample

open Sample in
theorem renaming_repairs_shown :
    (issuesAt {} greeting parameterSite).map Issue.rule =
        [.parameterCamelCase, .placeholderParameter] ∧
      (issuesAt {} greeting parameterSite).map Issue.suggestion =
        ["Rename to 'userName'", "Rename to 'userName'"] ∧
      ∀ issue ∈ issuesAt {} greeting parameterSite, ∃ description replacement,
        issue = rename issue.rule ⟨"@User_name", {}⟩ description replacement ∧
        Proposes issue ⟨"@User_name", {}⟩ replacement ∧
        ¬∃ again ∈ issuesAt {} (greeting.respell replacement parameterSite) parameterSite,
          again.rule = issue.rule := by
  have rules : (issuesAt {} greeting parameterSite).map Issue.rule =
      [.parameterCamelCase, .placeholderParameter] := by decide +kernel
  refine ⟨rules, by decide +kernel, ?_⟩
  intro issue reported
  obtain ⟨-, repairs⟩ := renaming_repairs {} greeting greeting_identifiers
  obtain ⟨token, description, replacement, declared, renames, proposes, -, again⟩ :=
    repairs parameterSite (by decide) issue reported
  cases declared
  refine ⟨description, replacement, renames, proposes, ?_⟩
  rw [again]
  have listed := List.mem_map_of_mem (f := Issue.rule) reported
  simp only [rules, List.mem_cons, List.not_mem_nil, or_false] at listed
  rcases listed with camel | shown
  · rw [camel]
    exact id
  · rw [shown]
    intro underscores
    exact absurd (underscores 'U' (by decide)) (by decide)

open Sample in
/-- A class without a letter in its name is to be renamed to what it is called already. -/
theorem renaming_repeats_itself :
    (∀ node ∈ greeting.descendants, ∀ token ∈ Node.declaredTokens node,
        isIdentifier token.text = true) ∧
      ∃ issue ∈ issuesAt {} greeting classSite,
        issue ∈ issues {} greeting ∧ issue.suggestion = "Rename to '__'" ∧
        ∃ again ∈ issuesAt {} (greeting.respell "__" classSite) classSite,
          again.rule = issue.rule := by
  have reported : rename .classPascalCase ⟨"__", {}⟩ "Class '__' must be PascalCase" "__" ∈
      issuesAt {} greeting classSite := by
    decide +kernel
  have same : greeting.respell "__" classSite = greeting := rfl
  refine ⟨greeting_identifiers, _, reported, by decide +kernel, rfl, ?_⟩
  rw [same]
  exact ⟨_, reported, rfl⟩

end Check.Naming

end SharpLint
