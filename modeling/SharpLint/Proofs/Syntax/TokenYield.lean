import SharpLint.Check.Duplication
import SharpLint.Proofs.Syntax.Conversion

/-!
# The canonical form of a converted tree

The tokens of a concrete tree are the texts of its smallest parts that count, comments left out.
Conversion keeps them (`tokens_convert`), so they alone decide the canonical form and the digest of
what a concrete tree becomes. The canonical form is written token by token; `foldl_writeToken` says
what comes of it, whatever tokens are empty.
-/

namespace SharpLint

namespace Concrete

/-- The kinds whose nodes are one token each, whatever is inside them. -/
def unitKinds : List String :=
  ["identifier", "string_literal", "verbatim_string_literal", "raw_string_literal",
   "character_literal", "integer_literal", "real_literal", "boolean_literal", "null_literal",
   "interpolated_string_expression"]

mutual

/-- The texts of the tokens of a concrete tree, in order. -/
def yield (source : Source) : Concrete → List String
  | .node label children =>
    if !label.named || label.kind ∈ unitKinds || children.isEmpty then
      [source.textOf (.node label children)]
    else yieldAll source children

def yieldAll (source : Source) : List Concrete → List String
  | [] => []
  | child :: rest => (if child.isComment then [] else yield source child) ++ yieldAll source rest

end

end Concrete

namespace Node

/-! ## Tokens of syntax trees -/

theorem tokens_eq_reached (node : Node) :
    node.tokens = (Tree.reached (fun node => (text node).isNone) node).filterMap text := by
  rw [tokens, Tree.Walk.toList_eq, List.flatMap_singleton]

theorem tokens_of_text {node : Node} {text : String} (own : node.text = some text) :
    node.tokens = [text] := by
  rw [tokens_eq_reached, Tree.reached_eq, own]
  exact List.filterMap_cons_some own

theorem tokens_of_no_text {node : Node} (bare : node.text = none) :
    node.tokens = node.children.flatMap tokens := by
  rw [tokens_eq_reached, Tree.reached_eq, bare, if_pos Option.isNone_none,
    List.filterMap_cons_none bare, List.filterMap_flatMap]
  apply List.flatMap_congr
  intro child _
  rw [tokens_eq_reached]

/-! ## Writing tokens -/

theorem foldl_writeToken_of_ne {written : String} (started : written ≠ "") (tokens : List String) :
    tokens.foldl writeToken written = " ".intercalate (written :: tokens) := by
  induction tokens generalizing written with
  | nil => simp
  | cons token tokens ih =>
      have grown : written ++ " " ++ token ≠ "" := by simp
      rw [List.foldl_cons, writeToken, if_neg (by simpa using started), ih grown,
        String.append_assoc, String.intercalate_cons_append, String.intercalate_cons_append,
        String.intercalate_cons_cons, String.append_assoc]

theorem foldl_writeToken (tokens : List String) :
    tokens.foldl writeToken "" = " ".intercalate (tokens.dropWhile (· = "")) := by
  induction tokens with
  | nil => simp
  | cons token tokens ih =>
      have first : writeToken "" token = token := rfl
      rw [List.foldl_cons, first]
      by_cases empty : token = ""
      · rw [List.dropWhile_cons_of_pos (by simpa using empty), empty, ih]
      · rw [List.dropWhile_cons_of_neg (by simpa using empty), foldl_writeToken_of_ne empty]

end Node

namespace Concrete

/-! ## What conversion keeps -/

theorem yieldAll_eq_flatMap (source : Source) (children : List Concrete) :
    yieldAll source children = (children.filter (!isComment ·)).flatMap (yield source) := by
  induction children with
  | nil => rfl
  | cons child rest ih =>
      rw [yieldAll, ih, List.filter_cons]
      cases child.isComment <;> simp

theorem mem_unitKinds_of_leafKind? {grammarKind : String}
    (leaf : (leafKind? grammarKind).isSome = true) : grammarKind ∈ unitKinds := by
  unfold leafKind? at leaf
  split at leaf <;> simp_all [unitKinds]

theorem notMem_unitKinds {grammarKind : String} (noLeaf : leafKind? grammarKind = none)
    (plain : grammarKind ≠ "interpolated_string_expression") : grammarKind ∉ unitKinds := by
  unfold leafKind? at noLeaf
  split at noLeaf <;> simp_all [unitKinds]

theorem syntaxKind_eq_interpolatedString (source : Source) (node : Concrete) :
    node.syntaxKind source = .interpolatedString ↔
      node.kind = "interpolated_string_expression" := by
  unfold syntaxKind
  split <;> simp_all

theorem text_syntaxLabel (source : Source) (place : Place) (node : Concrete) :
    (node.syntaxLabel source place).text =
      if node.kind = "interpolated_string_expression" then some (source.textOf node) else none := by
  simp only [← syntaxKind_eq_interpolatedString source]
  unfold syntaxLabel
  dsimp only
  split <;> simp_all [declarationLabel]

theorem text_convert_of_parts {node : Concrete} (parts : node.isUnit = false) (source : Source)
    (place : Place) :
    (node.convert source place).text =
      if node.kind = "interpolated_string_expression" then some (source.textOf node) else none := by
  rw [convert_of_parts parts]
  exact text_syntaxLabel source place node

theorem yield_eq (source : Source) (node : Concrete) :
    node.yield source =
      if !node.isNamed || node.kind ∈ unitKinds || node.children.isEmpty then
        [source.textOf node]
      else (node.children.filter (!isComment ·)).flatMap (yield source) := by
  rw [← yieldAll_eq_flatMap]
  cases node with
  | node label children =>
      rw [yield]
      rfl

theorem yield_of_kind {node : Concrete} (unit : node.kind ∈ unitKinds) (source : Source) :
    node.yield source = [source.textOf node] := by
  simp [yield_eq, unit]

theorem yield_of_unit {node : Concrete} (unit : node.isUnit = true) (source : Source) :
    node.yield source = [source.textOf node] := by
  simp only [isUnit, Bool.or_eq_true] at unit
  rcases unit with (unnamed | leaf) | childless
  · simp [yield_eq, unnamed]
  · exact yield_of_kind (mem_unitKinds_of_leafKind? leaf) source
  · simp [yield_eq, childless]

theorem yield_of_parts {node : Concrete} (parts : node.isUnit = false)
    (plain : node.kind ≠ "interpolated_string_expression") (source : Source) :
    node.yield source = (node.children.filter (!isComment ·)).flatMap (yield source) := by
  simp only [isUnit, Bool.or_eq_false_iff, Option.isSome_eq_false_iff,
    Option.isNone_iff_eq_none] at parts
  obtain ⟨⟨named, noLeaf⟩, inhabited⟩ := parts
  rw [yield_eq, named, inhabited]
  simp [notMem_unitKinds noLeaf plain]

theorem flatMap_tokens_of_becomes {source : Source} {children : List Concrete}
    {converted : List Node}
    (kept : ∀ child ∈ children, ∀ place, (convert source place child).tokens = yield source child)
    (becomes : List.Forall₂ (Becomes source) children converted) :
    converted.flatMap Node.tokens = children.flatMap (yield source) := by
  induction becomes with
  | nil => rfl
  | cons first _ ih =>
      rw [List.forall_mem_cons] at kept
      rw [List.flatMap_cons, List.flatMap_cons, ih kept.2]
      cases first with
      | name identifier =>
          rw [yield_of_kind (by simp [identifier, unitKinds]), Node.tokens_of_text rfl]
      | converted place => rw [kept.1]

theorem tokens_convert (source : Source) (place : Place) (node : Concrete) :
    (node.convert source place).tokens = node.yield source := by
  induction node using Tree.induction generalizing place with
  | node label children kept =>
      cases unit : isUnit (.node label children) with
      | true =>
          obtain ⟨kind, leaf⟩ := convert_of_unit unit
          rw [leaf, yield_of_unit unit, Node.tokens_of_text rfl]
      | false =>
          have text := text_convert_of_parts unit source place
          -- An interpolated string has a text besides its children, and then only the text counts.
          split at text
          · rename_i interpolated
            rw [Node.tokens_of_text text, yield_of_kind (by simp [interpolated, unitKinds])]
          · rename_i plain
            rw [Node.tokens_of_no_text text, yield_of_parts unit plain, convert_of_parts unit]
            refine flatMap_tokens_of_becomes ?_ (convertAll_becomes source _ _ _ _ _)
            intro child member
            exact kept child (List.mem_filter.mp member).1

end Concrete

namespace Concrete.Sample

def part (kind : String) (named : Bool) (start stop : Nat) : Concrete :=
  .node { kind, named, start, stop } []

def block (stop : Nat) (parts : List Concrete) : Concrete :=
  .node { kind := "block", named := true, start := 0, stop } parts

def tightSource : Source := { text := "\x7bx\x7d" }

def tight : Concrete :=
  block 3
    [part "\x7b" false 0 1, part "identifier" true 1 2, part ";" false 2 2, part "\x7d" false 2 3]

def looseSource : Source := { text := "\x7b /*c*/\n x\x7d" }

def loose : Concrete :=
  block 11
    [part "\x7b" false 0 1, part "comment" true 2 7, part "identifier" true 9 10,
     part ";" false 10 10, part "\x7d" false 10 11]

end Concrete.Sample

open Check.Duplication in
/-- The tokens of a concrete tree, written one space apart from the first one on that is not empty,
are the canonical form of what it becomes, and nothing else decides its digest. -/
theorem canonicalForm_convert_eq_yield :
    (∀ (source : Source) (place : Place) (node : Concrete),
      (node.convert source place).canonicalForm =
        " ".intercalate ((node.yield source).dropWhile (· = ""))) ∧
    ∀ (source other : Source) (place elsewhere : Place) (block twin : Concrete),
      block.yield source = twin.yield other →
        (block.convert source place).canonicalForm =
          (twin.convert other elsewhere).canonicalForm ∧
        blockDigest (block.convert source place) = blockDigest (twin.convert other elsewhere) := by
  have written (source : Source) (place : Place) (node : Concrete) :
      (node.convert source place).canonicalForm =
        " ".intercalate ((node.yield source).dropWhile (· = "")) := by
    rw [Node.canonicalForm, Node.foldl_writeToken, Concrete.tokens_convert]
  refine ⟨written, ?_⟩
  intro source other place elsewhere block twin same
  have form : (block.convert source place).canonicalForm =
      (twin.convert other elsewhere).canonicalForm := by rw [written, written, same]
  exact ⟨form, congrArg Digest.ofText form⟩

open Check.Duplication Concrete.Sample in
theorem canonicalForm_convert_eq_yield_loose :
    tight.yield tightSource = loose.yield looseSource ∧
    (tight.convert tightSource {}).canonicalForm = "\x7b x  \x7d" ∧
    (tight.convert tightSource {}).canonicalForm =
      (loose.convert looseSource { container := .member }).canonicalForm ∧
    blockDigest (tight.convert tightSource {}) =
      blockDigest (loose.convert looseSource { container := .member }) := by
  have same : tight.yield tightSource = loose.yield looseSource := by decide
  obtain ⟨written, decided⟩ := canonicalForm_convert_eq_yield
  refine ⟨same, ?_, decided _ _ _ _ tight loose same⟩
  rw [written]
  decide

end SharpLint
