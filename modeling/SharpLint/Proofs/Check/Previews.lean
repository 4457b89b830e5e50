import SharpLint.Check.Duplication
import SharpLint.Config.Validation
import SharpLint.Proofs.Check.Reports

/-!
# What is shown of a repeated block

An issue on a repeated block shows the first block of its cluster, as a whole or cut short. A cut is
marked by three dots whatever the limit is, so the limit is kept by what is not cut, and otherwise
exactly if it leaves room for the dots (`Text.Abridges`, `previews_abridge_first_block`). A valid
configuration may leave less (`dots_exceed_limit`).
-/

namespace SharpLint

namespace Text

/-- A text as it is shown under a limit: whole if it is short enough, otherwise the start of it and
three dots. -/
structure Abridges (limit : Nat) (text shown : String) : Prop where
  whole : text.length ≤ limit → shown = text
  cut : limit < text.length → ∃ kept : String, kept.toList <+: text.toList ∧
    kept.length < text.length ∧ shown = kept ++ "..."
  length_le_iff : shown.length ≤ limit ↔ text.length ≤ limit ∨ 3 ≤ limit

variable {text : String} {limit : Nat}

theorem preview_of_length_le (short : text.length ≤ limit) : preview text limit = text := by
  rw [preview, String.length_toList, if_pos short]

theorem preview_of_lt_length (long : limit < text.length) :
    preview text limit = String.ofList (text.toList.take (limit - 3)) ++ "..." := by
  rw [preview, String.length_toList, if_neg (Nat.not_le.mpr long)]

theorem length_kept (long : limit < text.length) :
    (String.ofList (text.toList.take (limit - 3))).length = limit - 3 := by
  rw [String.length_ofList, List.length_take, String.length_toList]
  omega

theorem abridges_preview (text : String) (limit : Nat) :
    Abridges limit text (preview text limit) := by
  by_cases short : text.length ≤ limit
  · rw [preview_of_length_le short]
    exact ⟨fun _ => rfl, fun long => absurd short (Nat.not_le.mpr long), by simp [short]⟩
  · have long := Nat.not_le.mp short
    have kept := length_kept long
    rw [preview_of_lt_length long]
    refine ⟨fun fits => absurd fits short, fun _ => ⟨_, ?_, ?_, rfl⟩, ?_⟩
    · rw [String.toList_ofList]
      exact List.take_prefix _ _
    · omega
    · have dots : "...".length = 3 := rfl
      rw [String.length_append, kept, dots]
      omega

end Text

namespace Check.Duplication

structure Shows (limit : Nat) (cluster : List (Node × Nat)) (member : Node × Nat) (issue : Issue) :
    Prop where
  rule : issue.rule = .duplicateCode
  line : issue.line = member.1.span.startLine
  column : issue.column = member.1.span.startColumn
  first : ∃ first, cluster.head? = some first ∧
    Text.Abridges limit first.1.canonicalForm issue.snippet

theorem clusterIssues_show (limits : DuplicationLimits) (cluster : List (Node × Nat)) :
    List.Forall₂ (Shows limits.previewCharacters cluster) cluster
      (clusterIssues limits cluster) := by
  rw [clusterIssues, List.forall₂_map_right_iff, List.forall₂_same]
  intro member present
  refine ⟨rfl, rfl, rfl, ?_⟩
  cases cluster with
  | nil => cases present
  | cons first others => exact ⟨first, rfl, Text.abridges_preview _ _⟩

/-- Every issue shows the first block of its cluster: the whole canonical form if that is within the
limit, otherwise a proper prefix of it and three dots. What is shown is itself within the limit
exactly if the canonical form is, or the three dots are. -/
theorem previews_abridge_first_block (limits : DuplicationLimits) (root : Node) :
    List.Forall₂ (fun place => Shows limits.previewCharacters place.1 place.2)
      ((clusters root limits.minStatements).flatMap fun cluster => cluster.map (cluster, ·))
      (issues limits root) := by
  apply forall₂_flatMap
  intro cluster _
  rw [List.forall₂_map_left_iff]
  exact clusterIssues_show limits cluster

namespace Sample

def emptyBlock : Node :=
  .node { kind := .block } [Node.leaf .token {} "\x7b", Node.leaf .token {} "\x7d"]

def twins : Node := .node { kind := .compilationUnit } [emptyBlock, emptyBlock]

end Sample

open Duplication.Sample in
/-- Two characters may be shown of a block, and three dots are. -/
theorem dots_exceed_limit :
    let config : Config := { duplication := { previewCharacters := 2 } }
    config.validate = .ok config ∧
    (issues config.duplication twins).map (·.snippet) = ["...", "..."] ∧
    ∃ issue ∈ issues config.duplication twins,
      config.duplication.previewCharacters < issue.snippet.length := by
  decide +kernel

end Check.Duplication

end SharpLint
