import SharpLint.Proofs.Syntax.DeclaredNames
import SharpLint.Proofs.Syntax.MetNodes
import SharpLint.Proofs.Text.Trimming

/-!
# Who may use a declaration

A declaration has the modifiers that it spells out (`mem_spelledModifiers`). If none of them is
about access, its innermost container decides. Conversion carries the container inwards through
nodes of all kinds; `impliedAccess?_foldr` finds it by looking outwards instead, at the ancestors of
the declaration.
-/

namespace SharpLint

namespace Modifier

variable {modifier : Modifier}

theorem mem_setOf {modifiers : List Modifier} :
    modifier ∈ setOf modifiers ↔ modifier ∈ modifiers := by
  have listed : modifier ∈ all := by cases modifier <;> decide
  simp [setOf, listed]

def words : List (String × Modifier) :=
  [("public", publicAccess), ("private", privateAccess), ("protected", protectedAccess),
   ("internal", internalAccess), ("static", static), ("async", async), ("abstract", abstract),
   ("virtual", virtual), ("override", override), ("sealed", sealed), ("readonly", readonly),
   ("const", const), ("partial", partialType)]

theorem mem_words {word : String} : (word, modifier) ∈ words ↔ word = modifier.keyword := by
  cases modifier <;> simp [words, keyword]

theorem ofKeyword?_eq_some {word : String} :
    ofKeyword? word = some modifier ↔ (word, modifier) ∈ words := by
  rw [mem_words]
  constructor
  · intro found
    have same := List.find?_some found
    rw [beq_iff_eq] at same
    exact same.symm
  · rintro rfl
    cases modifier <;> decide

theorem isAccess_iff : modifier.isAccess = true ↔
    modifier ∈ [publicAccess, privateAccess, protectedAccess, internalAccess] := by
  cases modifier <;> decide

end Modifier

namespace Concrete

def typeKinds : List String :=
  ["class_declaration", "struct_declaration", "record_declaration", "record_struct_declaration"]

def memberKinds : List String :=
  ["method_declaration", "local_function_statement", "property_declaration", "field_declaration",
   "constructor_declaration"]

def isContainer (node : Concrete) : Bool :=
  node.kind ∈ typeKinds || node.kind = "interface_declaration" || node.kind ∈ memberKinds

/-- The node has the modifier among its tokens and modifiers, apart from white space around it. -/
def Spells (source : Source) (node : Concrete) (modifier : Modifier) : Prop :=
  ∃ child : Concrete, child ∈ node.children ∧ (child.kind = "modifier" ∨ child.isNamed = false) ∧
    ∃ word, (word, modifier) ∈ Modifier.words ∧
      Text.Trimmed (source.textOf child).toList word.toList

/-- The access that a declaration has inside its innermost container, or outside of all. -/
def accessInside : Option Concrete → Option Modifier
  | none => some .internalAccess
  | some container =>
    if container.kind ∈ typeKinds then some .privateAccess
    else if container.kind = "interface_declaration" then some .publicAccess
    else none

/-- A declaration has a modifier if it spells it out, or if it spells out no access and the modifier
is the access that its container gives it. Local functions are not given any. -/
def Grants (source : Source) (node : Concrete) (container : Option Concrete)
    (modifier : Modifier) : Prop :=
  Spells source node modifier ∨
    node.kind ≠ "local_function_statement" ∧
      (∀ access ∈ [Modifier.publicAccess, .privateAccess, .protectedAccess, .internalAccess],
        ¬Spells source node access) ∧
      accessInside container = some modifier

variable {source : Source} {place : Place} {tree node : Concrete} {modifier : Modifier}
  {path : List Nat}

/-! ## Modifiers -/

theorem mem_spelledModifiers :
    modifier ∈ node.spelledModifiers source ↔ Spells source node modifier := by
  rw [spelledModifiers, List.mem_filterMap]
  refine exists_congr fun child => and_congr_right fun _ => ?_
  rw [Option.ite_none_right_eq_some, Modifier.ofKeyword?_eq_some]
  refine and_congr (by simp) ?_
  constructor
  · intro word
    exact ⟨_, word, by rw [String.toList_ofList]; exact Text.trimmed_trim _⟩
  · rintro ⟨word, listed, trimmed⟩
    rwa [Text.trim_eq_iff.mpr trimmed, String.ofList_toList]

theorem mem_modifiers {container : Container} :
    modifier ∈ node.modifiers source container ↔
      Spells source node modifier ∨
        node.kind ≠ "local_function_statement" ∧
          (∀ access ∈ [Modifier.publicAccess, .privateAccess, .protectedAccess, .internalAccess],
            ¬Spells source node access) ∧
          container.impliedAccess? = some modifier := by
  have noAccess : (node.spelledModifiers source).any (·.isAccess) = false ↔
      ∀ access ∈ [Modifier.publicAccess, .privateAccess, .protectedAccess, .internalAccess],
        ¬Spells source node access := by
    simp only [List.any_eq_false, mem_spelledModifiers, ← Modifier.isAccess_iff]
    exact forall_congr' fun access => imp_not_comm
  rw [modifiers, Modifier.mem_setOf, List.mem_append, mem_spelledModifiers, Option.mem_toList,
    Option.ite_none_left_eq_some, ← noAccess]
  simp [and_assoc]

/-! ## Containers -/

theorem inside_eq (source : Source) (node : Concrete) (container : Container) :
    container.inside node.kind (node.syntaxKind source) =
      if node.kind ∈ typeKinds then .type
      else if node.kind = "interface_declaration" then .interface
      else if node.kind ∈ memberKinds then .member
      else container := by
  unfold syntaxKind
  split <;> simp_all [Container.inside, typeKinds, memberKinds]

theorem impliedAccess?_foldr (source : Source) (around : List Concrete) :
    (around.foldr (fun ancestor (container : Container) =>
      container.inside (kind ancestor) (syntaxKind source ancestor)) .topLevel).impliedAccess? =
      accessInside (around.find? isContainer) := by
  induction around with
  | nil => rfl
  | cons ancestor around ih =>
      rw [List.foldr_cons, inside_eq, List.find?_cons]
      by_cases isType : ancestor.kind ∈ typeKinds
      · simp [isContainer, isType, accessInside, Container.impliedAccess?]
      · by_cases isInterface : ancestor.kind = "interface_declaration"
        · simp [isContainer, isInterface, accessInside, Container.impliedAccess?, typeKinds]
        · by_cases isMember : ancestor.kind ∈ memberKinds
          · simp [isContainer, isType, isInterface, isMember, accessInside,
              Container.impliedAccess?]
          · simpa [isContainer, isType, isInterface, isMember] using ih

end Concrete

/-- Every node of a converted tree comes from a node that conversion meets, in the same order. If
that is a declaration, its modifiers are those that it spells out; without access among them, it
has the access that its innermost container gives. -/
theorem access_follows_container (source : Source) (tree : Concrete) :
    List.Forall₂ (fun path (converted : Node) => ∃ node : Concrete,
        tree.at? path = some node ∧ converted.span = source.spanOf node ∧
        (node.IsDeclaration → ∀ modifier, modifier ∈ converted.label.modifiers ↔
          node.Grants source ((tree.ancestors path).find? Concrete.isContainer) modifier))
      tree.metPaths (tree.convert source {}).preorder := by
  refine (Concrete.arises_convert source {} tree).imp ?_
  intro path converted arises
  obtain ⟨node, found, -⟩ := id arises
  refine ⟨node, found, arises.span_eq found, ?_⟩
  intro declaration modifier
  obtain ⟨modifiers, -⟩ := arises.of_isDeclaration found declaration
  rw [modifiers, Concrete.mem_modifiers, Concrete.container_placeAt source found,
    Concrete.impliedAccess?_foldr, Concrete.Grants]

namespace Concrete.Sample

def accessSource : Source := { text := "public;private protected internal" }

def declaration (kind : String) (parts : List Concrete) : Concrete :=
  phrase kind 0 7 (parts ++ [sign ";" 6])

def field : Concrete := declaration "field_declaration" []

def spelledFields : List Concrete :=
  [declaration "field_declaration" [phrase "modifier" 7 14 [], phrase "modifier" 15 24 []],
   declaration "field_declaration"
    [.node { kind := "internal", named := false, start := 25, stop := 33 } []]]

def nested : Concrete :=
  declaration "interface_declaration"
    [declaration "class_declaration"
      [phrase "declaration_list" 0 7
        ([field,
          declaration "method_declaration"
          [phrase "modifier" 0 6 [],
           phrase "block" 6 7 [declaration "local_function_statement" []]]] ++ spelledFields)]]

end Concrete.Sample

open Concrete.Sample in
theorem access_follows_container_nested :
    let converted := nested.convert accessSource {}
    (converted.preorder.filter fun node =>
        Node.kind node ∈ [.interfaceDecl, .classDecl, .fieldDecl, .methodDecl]).map
          (·.label.modifiers) =
      [[.internalAccess], [.publicAccess], [.privateAccess], [.publicAccess], [],
       [.privateAccess, .protectedAccess], [.internalAccess]] ∧
    [0, 0, 0] ∈ nested.metPaths ∧ field.IsDeclaration ∧
      ∃ inner ∈ converted.preorder, ∀ modifier,
        modifier ∈ inner.label.modifiers ↔
          field.Grants accessSource ((nested.ancestors [0, 0, 0]).find? Concrete.isContainer)
            modifier := by
  intro converted
  have met : [0, 0, 0] ∈ nested.metPaths := by decide
  have isDeclaration : field.IsDeclaration := ⟨by decide, by decide, nofun⟩
  obtain ⟨inner, present, node, found, -, access⟩ :=
    exists_related_of_mem (access_follows_container accessSource nested).flip met
  cases found
  exact ⟨by decide +kernel, met, isDeclaration, inner, present, access isDeclaration⟩

end SharpLint
