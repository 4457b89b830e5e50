import SharpLint.Proofs.Tree.Walks

/-!
# Flat forms

A tree is given back by its flat form (`ofRows?_rows`), so trees can be compared row by row.
-/

namespace SharpLint.Tree

universe u

variable {α : Type u}

/-- The rows of a tree in front of others stand for that tree in front of what the others stand
for. -/
theorem forestOfRows?_rows_append (tree : Tree α) (rest : List (α × Nat)) :
    forestOfRows? (tree.rows ++ rest) = (forestOfRows? rest).map (tree :: ·) := by
  induction tree generalizing rest with
  | node label children each =>
      have below (others : List (α × Nat)) :
          forestOfRows? (rowsAll children ++ others) =
            (forestOfRows? others).map (children ++ ·) := by
        induction children with
        | nil => simp [rowsAll]
        | cons child children ih =>
            rw [List.forall_mem_cons] at each
            rw [rowsAll, List.append_assoc, each.1, ih each.2, Option.map_map]
            rfl
      rw [rows, List.cons_append, forestOfRows?, below]
      cases forestOfRows? rest with
      | none => rfl
      | some trees => simp

theorem ofRows?_rows (tree : Tree α) : ofRows? tree.rows = some tree := by
  have whole := forestOfRows?_rows_append tree []
  rw [List.append_nil] at whole
  simp [ofRows?, whole, forestOfRows?]

theorem rows_injective {tree other : Tree α} (same : tree.rows = other.rows) : tree = other := by
  have given := ofRows?_rows tree
  rw [same, ofRows?_rows] at given
  exact (Option.some.inj given).symm

instance [DecidableEq α] : DecidableEq (Tree α) := fun tree other =>
  decidable_of_iff (tree.rows = other.rows) ⟨rows_injective, congrArg rows⟩

end SharpLint.Tree
