import Mathlib.Data.List.Nodup
import Mathlib.Data.List.Perm.Subperm
import SharpLint.Check.Duplication
import SharpLint.Proofs.Findings.Gathering
import SharpLint.Proofs.Tree.Walks

/-!
# Clusters of repeated blocks

Blocks are grouped by digest as they are met. `groupBy_eq` says what the groups are without going
through the blocks one by one: one for every digest, in the order in which digests are first met,
with the blocks of that digest in order. The clusters are the groups with several members, so they
divide up the blocks that are repeated (`Clustering`), and each of these is reported once
(`Reports`).
-/

namespace SharpLint.Check.Duplication

/-- The number stands for a block strictly below the root that is large enough to be compared.
Numbers are those of the structural listing in pre-order, the root being number zero. -/
structure Compares (root : Node) (minStatements : Nat) (member : Node × Nat) : Prop where
  below : 0 < member.2
  found : (Tree.reached (fun _ => true) root)[member.2]? = some member.1
  block : member.1.kind = .block
  large : minStatements ≤ member.1.statementCount

def Repeats (root : Node) (minStatements : Nat) (member : Node × Nat) : Prop :=
  Compares root minStatements member ∧
    ∃ other, Compares root minStatements other ∧ other ≠ member ∧
      blockDigest other.1 = blockDigest member.1

/-- The clusters divide up the repeated blocks by their digests. -/
structure Clustering (root : Node) (minStatements : Nat)
    (clusters : List (List (Node × Nat))) : Prop where
  members : ∀ member, member ∈ clusters.flatten ↔ Repeats root minStatements member
  once : clusters.flatten.Nodup
  together : ∀ member other, Compares root minStatements member →
    Compares root minStatements other → member ≠ other →
      ((∃ cluster ∈ clusters, member ∈ cluster ∧ other ∈ cluster) ↔
        blockDigest member.1 = blockDigest other.1)
  several : ∀ cluster ∈ clusters, 2 ≤ cluster.length
  inOrder : ∀ cluster ∈ clusters, cluster.Pairwise (·.2 < ·.2)
  byFirst : clusters.Pairwise fun cluster later =>
    ∀ first ∈ cluster.head?, ∀ other ∈ later.head?, first.2 < other.2

/-- The issue is a failure at the start of the block, and says how many blocks its cluster has. -/
structure Reports (clusters : List (List (Node × Nat))) (member : Node × Nat) (issue : Issue) :
    Prop where
  rule : issue.rule = .duplicateCode
  failing : issue.passed = false
  line : issue.line = member.1.span.startLine
  column : issue.column = member.1.span.startColumn
  size : ∃ cluster ∈ clusters, member ∈ cluster ∧
    issue.description = s!"Duplicated block ({cluster.length} occurrences)"

/-! ## Grouping -/

section Grouping

variable {α : Type} {key : α → String}

theorem addMember_of_mem {name : String} {names : List String} (distinct : names.Nodup)
    (present : name ∈ names) (member : α) (grouped : String → List α) :
    addMember name member (names.map fun other => (other, grouped other)) =
      names.map fun other =>
        (other, if other = name then grouped other ++ [member] else grouped other) := by
  induction names with
  | nil => cases present
  | cons first names ih =>
      rw [List.nodup_cons] at distinct
      rw [List.map_cons, List.map_cons, addMember]
      by_cases same : first = name
      · rw [if_pos same, if_pos same]
        congr 1
        apply List.map_congr_left
        intro other later
        have different : other ≠ name := fun equal => distinct.1 (same ▸ equal ▸ later)
        rw [if_neg different]
      · have later : name ∈ names := (List.mem_cons.mp present).resolve_left (Ne.symm same)
        rw [if_neg same, if_neg same, ih distinct.2 later]

theorem addMember_of_notMem {name : String} {names : List String} (fresh : name ∉ names)
    (member : α) (grouped : String → List α) :
    addMember name member (names.map fun other => (other, grouped other)) =
      (names.map fun other => (other, grouped other)) ++ [(name, [member])] := by
  induction names with
  | nil => rfl
  | cons first names ih =>
      rw [List.mem_cons, not_or] at fresh
      rw [List.map_cons, addMember, if_neg (Ne.symm fresh.1), ih fresh.2, List.cons_append]

theorem filter_key_concat (members : List α) (member : α) (name : String) :
    (members ++ [member]).filter (key · = name) =
      members.filter (key · = name) ++ if name = key member then [member] else [] := by
  rw [List.filter_append]
  by_cases same : name = key member
  · simp [same]
  · simp [same, Ne.symm same]

theorem filter_key_of_notMem {members : List α} {name : String}
    (fresh : name ∉ members.map key) : members.filter (key · = name) = [] := by
  rw [List.filter_eq_nil_iff]
  intro member present same
  exact fresh (List.mem_map.mpr ⟨member, present, by simpa using same⟩)

theorem groupBy_eq (key : α → String) (members : List α) :
    groupBy key members =
      (members.map key).eraseDups.map fun name => (name, members.filter (key · = name)) := by
  induction members using List.reverseRecOn with
  | nil => rfl
  | append_singleton members member ih =>
      have step : groupBy key (members ++ [member]) =
          addMember (key member) member (groupBy key members) := by
        rw [groupBy, List.foldl_append]
        rfl
      rw [step, ih, List.map_append, List.map_cons, List.map_nil]
      simp only [filter_key_concat]
      by_cases present : key member ∈ members.map key
      · rw [addMember_of_mem (nodup_eraseDups _) (List.mem_eraseDups.mpr present),
          eraseDups_concat_of_mem present]
        apply List.map_congr_left
        intro name _
        by_cases same : name = key member
        · rw [if_pos same, if_pos same]
        · rw [if_neg same, if_neg same, List.append_nil]
      · rw [addMember_of_notMem (mt List.mem_eraseDups.mp present),
          eraseDups_concat_of_notMem present, List.map_append, List.map_cons, List.map_nil,
          filter_key_of_notMem present, if_pos rfl, List.nil_append]
        congr 1
        apply List.map_congr_left
        intro name known
        have different : name ≠ key member :=
          fun same => present (same ▸ List.mem_eraseDups.mp known)
        rw [if_neg different, List.append_nil]

theorem head?_filter_key_concat {members : List α} {name : String}
    (known : name ∈ members.map key) (member : α) :
    ((members ++ [member]).filter (key · = name)).head? =
      (members.filter (key · = name)).head? := by
  obtain ⟨first, present, rfl⟩ := List.mem_map.mp known
  have nonempty : members.filter (key · = key first) ≠ [] :=
    List.ne_nil_of_mem (List.mem_filter.mpr ⟨present, by simp⟩)
  rw [filter_key_concat, List.head?_append_of_ne_nil _ nonempty]

theorem eraseDups_key_pairwise {members : List α} {number : α → Nat}
    (ordered : members.Pairwise (number · < number ·)) :
    (members.map key).eraseDups.Pairwise fun name later =>
      ∀ first ∈ (members.filter (key · = name)).head?,
        ∀ other ∈ (members.filter (key · = later)).head?, number first < number other := by
  induction members using List.reverseRecOn with
  | nil => exact .nil
  | append_singleton members member ih =>
      rw [List.pairwise_append] at ordered
      obtain ⟨ordered, -, last⟩ := ordered
      -- A new member changes the head of its own group only, and only if that is new too.
      have earlier : (members.map key).eraseDups.Pairwise fun name later =>
          ∀ first ∈ ((members ++ [member]).filter (key · = name)).head?,
            ∀ other ∈ ((members ++ [member]).filter (key · = later)).head?,
              number first < number other := by
        refine (ih ordered).imp_of_mem ?_
        intro name later known alsoKnown before
        rwa [head?_filter_key_concat (List.mem_eraseDups.mp known),
          head?_filter_key_concat (List.mem_eraseDups.mp alsoKnown)]
      rw [List.map_append, List.map_cons, List.map_nil]
      by_cases present : key member ∈ members.map key
      · rwa [eraseDups_concat_of_mem present]
      · rw [eraseDups_concat_of_notMem present, List.pairwise_append]
        refine ⟨earlier, List.pairwise_singleton _ _, ?_⟩
        intro name known later isLast first isFirst other isOther
        rw [head?_filter_key_concat (List.mem_eraseDups.mp known)] at isFirst
        have among := (List.mem_filter.mp (List.mem_of_mem_head? isFirst)).1
        rw [List.mem_singleton.mp isLast, filter_key_concat, filter_key_of_notMem present,
          if_pos rfl, List.nil_append, List.head?_cons, Option.mem_some] at isOther
        exact isOther ▸ last first among member List.mem_cons_self

end Grouping

/-! ## Blocks that are compared -/

theorem mem_candidates {root : Node} {minStatements : Nat} {member : Node × Nat} :
    member ∈ candidates root minStatements ↔ Compares root minStatements member := by
  obtain ⟨block, number⟩ := member
  simp only [candidates, List.mem_filter, Tree.numberedDescendants, isCandidate, Node.isBlock,
    Bool.and_eq_true, decide_eq_true_eq, List.mk_mem_zipIdx_iff_le_and_getElem?_sub]
  have listed (positive : 0 < number) :
      (Tree.reached (fun _ => true) root)[number]? = root.descendants[number - 1]? := by
    obtain ⟨before, rfl⟩ := Nat.exists_eq_add_one.mpr positive
    rw [← Tree.preorder_eq, Tree.preorder, List.getElem?_cons_succ, Nat.add_sub_cancel]
  constructor
  · rintro ⟨⟨below, found⟩, isBlock, large⟩
    exact ⟨below, (listed below).trans found, isBlock, large⟩
  · rintro ⟨below, found, isBlock, large⟩
    exact ⟨⟨below, (listed below).symm.trans found⟩, isBlock, large⟩

theorem candidates_pairwise (root : Node) (minStatements : Nat) :
    (candidates root minStatements).Pairwise (·.2 < ·.2) := by
  have numbers : (root.numberedDescendants.map (·.2)).Pairwise (· < ·) := by
    rw [Tree.numberedDescendants, List.zipIdx_map_snd]
    exact List.pairwise_lt_range'
  exact (List.pairwise_map.mp numbers).filter _

theorem nodup_candidates (root : Node) (minStatements : Nat) :
    (candidates root minStatements).Nodup :=
  (candidates_pairwise root minStatements).imp fun before same => by
    rw [same] at before
    exact Nat.lt_irrefl _ before

/-! ## Clusters -/

def blocksOf (root : Node) (minStatements : Nat) (digest : String) : List (Node × Nat) :=
  (candidates root minStatements).filter fun member => blockDigest member.1 = digest

def digests (root : Node) (minStatements : Nat) : List String :=
  ((candidates root minStatements).map fun member => blockDigest member.1).eraseDups

section Clusters

variable {root : Node} {minStatements : Nat} {member other : Node × Nat}

theorem clusters_eq (root : Node) (minStatements : Nat) :
    clusters root minStatements =
      ((digests root minStatements).map (blocksOf root minStatements)).filter (1 < ·.length) := by
  rw [clusters, groupBy_eq, List.map_map]
  rfl

theorem mem_blocksOf {digest : String} :
    member ∈ blocksOf root minStatements digest ↔
      Compares root minStatements member ∧ blockDigest member.1 = digest := by
  rw [blocksOf, List.mem_filter, mem_candidates, decide_eq_true_eq]

theorem mem_clusters {cluster : List (Node × Nat)} :
    cluster ∈ clusters root minStatements ↔
      ∃ digest, cluster = blocksOf root minStatements digest ∧ 1 < cluster.length := by
  rw [clusters_eq, List.mem_filter, List.mem_map, decide_eq_true_eq]
  constructor
  · rintro ⟨⟨digest, -, rfl⟩, several⟩
    exact ⟨digest, rfl, several⟩
  · rintro ⟨digest, rfl, several⟩
    refine ⟨⟨digest, ?_, rfl⟩, several⟩
    obtain ⟨member, present⟩ := List.exists_mem_of_length_pos (Nat.zero_lt_of_lt several)
    obtain ⟨compared, same⟩ := mem_blocksOf.mp present
    exact List.mem_eraseDups.mpr (List.mem_map.mpr ⟨member, mem_candidates.mpr compared, same⟩)

theorem nodup_blocksOf (root : Node) (minStatements : Nat) (digest : String) :
    (blocksOf root minStatements digest).Nodup :=
  (nodup_candidates root minStatements).filter _

theorem blocksOf_mem_clusters (compared : Compares root minStatements member)
    (alsoCompared : Compares root minStatements other) (different : member ≠ other)
    (same : blockDigest member.1 = blockDigest other.1) :
    blocksOf root minStatements (blockDigest other.1) ∈ clusters root minStatements := by
  have distinct : [member, other].Nodup := by simpa using different
  have both : [member, other] ⊆ blocksOf root minStatements (blockDigest other.1) := by
    intro either listed
    rcases List.mem_cons.mp listed with rfl | listed
    · exact mem_blocksOf.mpr ⟨compared, same⟩
    · rw [List.mem_singleton.mp listed]
      exact mem_blocksOf.mpr ⟨alsoCompared, rfl⟩
  exact mem_clusters.mpr ⟨_, rfl, (List.subperm_of_subset distinct both).length_le⟩

theorem exists_mem_ne {members : List (Node × Nat)} (distinct : members.Nodup)
    (several : 1 < members.length) (member : Node × Nat) :
    ∃ other ∈ members, other ≠ member := by
  by_contra none
  push Not at none
  have all : members ⊆ [member] := fun other listed => List.mem_singleton.mpr (none other listed)
  exact absurd (List.subperm_of_subset distinct all).length_le (Nat.not_le.mpr several)

theorem mem_flatten_clusters :
    member ∈ (clusters root minStatements).flatten ↔ Repeats root minStatements member := by
  rw [List.mem_flatten]
  constructor
  · rintro ⟨cluster, listed, present⟩
    obtain ⟨digest, rfl, several⟩ := mem_clusters.mp listed
    obtain ⟨other, alsoPresent, different⟩ := exists_mem_ne (nodup_blocksOf _ _ _) several member
    obtain ⟨compared, same⟩ := mem_blocksOf.mp present
    obtain ⟨alsoCompared, alsoSame⟩ := mem_blocksOf.mp alsoPresent
    exact ⟨compared, other, alsoCompared, different, alsoSame.trans same.symm⟩
  · rintro ⟨compared, other, alsoCompared, different, same⟩
    exact ⟨_, blocksOf_mem_clusters alsoCompared compared different same,
      mem_blocksOf.mpr ⟨compared, rfl⟩⟩

theorem nodup_flatten_clusters (root : Node) (minStatements : Nat) :
    (clusters root minStatements).flatten.Nodup := by
  rw [List.nodup_flatten]
  constructor
  · intro cluster listed
    obtain ⟨digest, rfl, -⟩ := mem_clusters.mp listed
    exact nodup_blocksOf _ _ _
  · rw [clusters_eq]
    refine List.Pairwise.filter _ (List.pairwise_map.mpr ?_)
    refine (nodup_eraseDups _).imp ?_
    intro digest later different member present alsoPresent
    exact different ((mem_blocksOf.mp present).2.symm.trans (mem_blocksOf.mp alsoPresent).2)

theorem clusters_clustering (root : Node) (minStatements : Nat) :
    Clustering root minStatements (clusters root minStatements) where
  members _ := mem_flatten_clusters
  once := nodup_flatten_clusters root minStatements
  together member other compared alsoCompared different := by
    constructor
    · rintro ⟨cluster, listed, present, alsoPresent⟩
      obtain ⟨digest, rfl, -⟩ := mem_clusters.mp listed
      exact (mem_blocksOf.mp present).2.trans (mem_blocksOf.mp alsoPresent).2.symm
    · intro same
      exact ⟨_, blocksOf_mem_clusters compared alsoCompared different same,
        mem_blocksOf.mpr ⟨compared, same⟩, mem_blocksOf.mpr ⟨alsoCompared, rfl⟩⟩
  several cluster listed := by
    obtain ⟨digest, -, several⟩ := mem_clusters.mp listed
    exact several
  inOrder cluster listed := by
    obtain ⟨digest, rfl, -⟩ := mem_clusters.mp listed
    exact (candidates_pairwise root minStatements).filter _
  byFirst := by
    rw [clusters_eq]
    refine List.Pairwise.filter _ (List.pairwise_map.mpr ?_)
    exact eraseDups_key_pairwise (candidates_pairwise root minStatements)

end Clusters

/-! ## Reports -/

theorem clusterIssues_reports (limits : DuplicationLimits)
    {clusters : List (List (Node × Nat))} {cluster : List (Node × Nat)}
    (listed : cluster ∈ clusters) :
    List.Forall₂ (Reports clusters) cluster (clusterIssues limits cluster) := by
  rw [clusterIssues, List.forall₂_map_right_iff, List.forall₂_same]
  intro member present
  exact ⟨rfl, rfl, rfl, rfl, cluster, listed, present, rfl⟩

/-- The clusters divide up the repeated blocks, and each repeated block is reported once. -/
theorem clusters_partition_repeated_blocks (root : Node) :
    (∀ minStatements, Clustering root minStatements (clusters root minStatements)) ∧
    ∀ limits : DuplicationLimits,
      List.Forall₂ (Reports (clusters root limits.minStatements))
        (clusters root limits.minStatements).flatten (issues limits root) := by
  constructor
  · exact clusters_clustering root
  · intro limits
    apply List.rel_flatten
    rw [List.forall₂_map_right_iff, List.forall₂_same]
    intro cluster listed
    exact clusterIssues_reports limits listed

end SharpLint.Check.Duplication
