import Mathlib.Data.List.Chain
import Mathlib.Data.List.TakeWhile
import SharpLint.Proofs.Names.Words
import SharpLint.Proofs.Text.Offsets

/-!
# The one way to cut a name into words

A name is cut into pieces at offsets between its characters (`Segments`). If the pieces hold all its
letters and digits and nothing else (`Decomposes`), there is no choice left: such pieces are found
one by one from the start of the name (`eq_piecesFrom`), where the next one begins at the next
letter or digit and goes on as long as it may. They are the words of the name
(`words_decompose_uniquely`).
-/

namespace SharpLint.Names

open Text

/-- Characters of a name that stand together, and the offset where they start. -/
structure Piece where
  start : Nat
  word : List Char

def Piece.stop (piece : Piece) : Nat := piece.start + byteLength piece.word

/-- A character that is neither a letter nor a digit stands between two offsets. -/
def Separated (name : List Char) (start stop : Nat) : Prop :=
  ∃ front c back, name = front ++ c :: back ∧ isAlphanumeric c = false ∧
    start ≤ byteLength front ∧ byteLength front < stop

/-- The pieces are cut out of the name one after another. Only the first character of a piece can be
a capital, and it is one unless something separates the piece from the one before. -/
structure Segments (name : List Char) (pieces : List Piece) : Prop where
  cut : ∀ piece ∈ pieces, between? name piece.start piece.stop = some piece.word
  nonempty : ∀ piece ∈ pieces, piece.word ≠ []
  ordered : pieces.Pairwise fun piece later => piece.stop ≤ later.start
  small : ∀ piece ∈ pieces, ∀ c ∈ piece.word.tail, isUppercase c = false
  apart : pieces.IsChain fun piece next =>
    Separated name piece.stop next.start ∨ startsWith isUppercase next.word = true

/-- The pieces are cut out of the name and hold all its letters and digits and nothing else. -/
structure Decomposes (name : List Char) (pieces : List Piece) : Prop
    extends Segments name pieces where
  whole : pieces.flatMap (·.word) = name.filter isAlphanumeric

def piecesFrom (offset : Nat) : List Char → List Piece
  | [] => []
  | c :: cs =>
    if isAlphanumeric c then
      let piece : Piece := { start := offset, word := c :: cs.takeWhile continues }
      piece :: piecesFrom piece.stop (cs.dropWhile continues)
    else piecesFrom (offset + c.utf8Size) cs
termination_by cs => cs.length
decreasing_by
  · have shorter := (List.dropWhile_sublist continues (l := cs)).length_le
    simp only [List.length_cons]
    omega
  · simp

variable {name done cs : List Char} {c : Char} {offset : Nat} {piece : Piece} {pieces : List Piece}

/-! ## Pieces found one by one -/

theorem piecesFrom_nil (offset : Nat) : piecesFrom offset [] = [] := by rw [piecesFrom]

theorem piecesFrom_of_not (other : isAlphanumeric c = false) :
    piecesFrom offset (c :: cs) = piecesFrom (offset + c.utf8Size) cs := by
  rw [piecesFrom, other]
  rfl

theorem piecesFrom_cons (alphanumeric : isAlphanumeric c = true) :
    piecesFrom offset (c :: cs) = ⟨offset, c :: cs.takeWhile continues⟩ ::
      piecesFrom (offset + byteLength (c :: cs.takeWhile continues)) (cs.dropWhile continues) := by
  rw [piecesFrom, if_pos alphanumeric]
  rfl

theorem map_word_piecesFrom (offset : Nat) (cs : List Char) :
    (piecesFrom offset cs).map (·.word) = words cs := by
  induction cs using words_induction generalizing offset with
  | nil => rw [piecesFrom_nil, List.map_nil, words_nil]
  | other c cs other ih => rw [piecesFrom_of_not other, words_cons_of_not other, ih]
  | word c cs alphanumeric ih =>
      rw [piecesFrom_cons alphanumeric, words_cons alphanumeric, List.map_cons, ih]

theorem le_start_of_mem_piecesFrom (member : piece ∈ piecesFrom offset cs) :
    offset ≤ piece.start := by
  induction cs using words_induction generalizing offset with
  | nil => simp [piecesFrom_nil] at member
  | other c cs other ih =>
      rw [piecesFrom_of_not other] at member
      exact Nat.le_of_add_right_le (ih member)
  | word c cs alphanumeric ih =>
      rw [piecesFrom_cons alphanumeric, List.mem_cons] at member
      rcases member with rfl | later
      · exact Nat.le_refl _
      · exact Nat.le_of_add_right_le (ih later)

theorem piecesFrom_append_of_not {gap : List Char} (blank : ∀ c ∈ gap, isAlphanumeric c = false)
    (cs : List Char) : piecesFrom offset (gap ++ cs) = piecesFrom (offset + byteLength gap) cs := by
  induction gap generalizing offset with
  | nil => rfl
  | cons c gap ih =>
      rw [List.forall_mem_cons] at blank
      rw [List.cons_append, piecesFrom_of_not blank.1, ih blank.2, byteLength_cons, Nat.add_assoc]

theorem piecesFrom_word_append (nonempty : piece.word ≠ [])
    (alphanumeric : ∀ c ∈ piece.word, isAlphanumeric c = true)
    (small : ∀ c ∈ piece.word.tail, isUppercase c = false)
    (ends : ∀ c ∈ cs.head?, continues c = false) :
    piecesFrom piece.start (piece.word ++ cs) = piece :: piecesFrom piece.stop cs := by
  obtain ⟨start, word⟩ := piece
  cases word with
  | nil => contradiction
  | cons c word =>
      rw [List.forall_mem_cons] at alphanumeric
      have goesOn : ∀ d ∈ word, continues d = true := by
        intro d member
        simp [continues, alphanumeric.2 d member, small d member]
      have stops : cs.takeWhile continues = [] ∧ cs.dropWhile continues = cs := by
        cases cs with
        | nil => simp
        | cons d cs => simpa using ends
      rw [List.cons_append, piecesFrom_cons alphanumeric.1, List.takeWhile_append_of_pos goesOn,
        List.dropWhile_append_of_pos goesOn, stops.1, stops.2, List.append_nil]
      rfl

/-! ## Words -/

theorem isAlphanumeric_of_mem_takeWhile {d : Char} (member : d ∈ cs.takeWhile continues) :
    isAlphanumeric d = true ∧ isUppercase d = false := by
  simpa [continues] using List.mem_takeWhile_imp member

theorem flatten_words (cs : List Char) : (words cs).flatten = cs.filter isAlphanumeric := by
  induction cs using words_induction with
  | nil => rfl
  | other c cs other ih =>
      rw [words_cons_of_not other, ih, List.filter_cons_of_neg (by simp [other])]
  | word c cs alphanumeric ih =>
      have kept : (cs.takeWhile continues).filter isAlphanumeric = cs.takeWhile continues :=
        List.filter_eq_self.mpr fun d member => (isAlphanumeric_of_mem_takeWhile member).1
      rw [words_cons alphanumeric, List.flatten_cons, ih, List.filter_cons_of_pos alphanumeric,
        List.cons_append]
      congr 1
      conv_rhs => rw [← List.takeWhile_append_dropWhile (p := continues) (l := cs)]
      rw [List.filter_append, kept]

/-! ## Pieces of a name -/

theorem byteLength_eq_zero : byteLength cs = 0 ↔ cs = [] := by
  cases cs with
  | nil => simp
  | cons c cs =>
      have positive := c.utf8Size_pos
      simp only [byteLength_cons, List.cons_ne_nil, iff_false]
      omega

theorem isPrefix_of_byteLength_le {front other : List Char} (isPrefix : front <+: name)
    (alsoPrefix : other <+: name) (shorter : byteLength front ≤ byteLength other) :
    front <+: other := by
  rcases List.prefix_or_prefix_of_prefix isPrefix alsoPrefix with within | ⟨more, rfl⟩
  · exact within
  · have none : byteLength more = 0 := by
      rw [byteLength_append] at shorter
      omega
    simp [byteLength_eq_zero.mp none]

theorem Segments.tail (segments : Segments name (piece :: pieces)) : Segments name pieces where
  cut other member := segments.cut other (List.mem_cons_of_mem _ member)
  nonempty other member := segments.nonempty other (List.mem_cons_of_mem _ member)
  ordered := segments.ordered.of_cons
  small other member := segments.small other (List.mem_cons_of_mem _ member)
  apart := segments.apart.tail

theorem Segments.cons (segments : Segments name pieces)
    (cut : between? name piece.start piece.stop = some piece.word) (nonempty : piece.word ≠ [])
    (small : ∀ c ∈ piece.word.tail, isUppercase c = false)
    (ordered : ∀ later ∈ pieces, piece.stop ≤ later.start)
    (apart : ∀ next ∈ pieces.head?,
      Separated name piece.stop next.start ∨ startsWith isUppercase next.word = true) :
    Segments name (piece :: pieces) where
  cut := List.forall_mem_cons.mpr ⟨cut, segments.cut⟩
  nonempty := List.forall_mem_cons.mpr ⟨nonempty, segments.nonempty⟩
  ordered := segments.ordered.cons ordered
  small := List.forall_mem_cons.mpr ⟨small, segments.small⟩
  apart := List.isChain_cons.mpr ⟨apart, segments.apart⟩

theorem Segments.exists_gap (segments : Segments name (piece :: pieces)) (split : name = done ++ cs)
    (after : byteLength done ≤ piece.start) :
    ∃ gap back, cs = gap ++ (piece.word ++ back) ∧
      byteLength done + byteLength gap = piece.start ∧
      byteLength (done ++ (gap ++ piece.word)) = piece.stop ∧
      name = done ++ (gap ++ piece.word) ++ back := by
  obtain ⟨front, back, placed, start, stop⟩ :=
    between?_eq_some.mp (segments.cut piece List.mem_cons_self)
  have within : done <+: front :=
    isPrefix_of_byteLength_le ⟨cs, split.symm⟩ ⟨_, placed.symm⟩ (start ▸ after)
  obtain ⟨gap, rfl⟩ := within
  rw [byteLength_append] at start
  refine ⟨gap, back, ?_, start, ?_, by simpa using placed⟩
  · rw [split, List.append_assoc] at placed
    exact List.append_cancel_left placed
  · rw [byteLength_append, byteLength_append]
    omega

theorem Segments.stop_le (segments : Segments name (piece :: pieces)) :
    ∀ later ∈ pieces, piece.stop ≤ later.start :=
  (List.pairwise_cons.mp segments.ordered).1

theorem Segments.flatMap_sublist (segments : Segments name pieces) (split : name = done ++ cs)
    (after : ∀ piece ∈ pieces, byteLength done ≤ piece.start) :
    (pieces.flatMap (·.word)).Sublist cs := by
  induction pieces generalizing done cs with
  | nil => exact List.nil_sublist _
  | cons piece pieces ih =>
      obtain ⟨gap, back, rfl, -, stop, placed⟩ :=
        segments.exists_gap split (after piece List.mem_cons_self)
      have others := ih segments.tail placed (stop ▸ segments.stop_le)
      rw [List.flatMap_cons]
      exact ((List.Sublist.refl _).append others).trans (List.sublist_append_right _ _)

theorem filter_split {gap word later back : List Char} (inside : later.Sublist back)
    (whole : word ++ later = (gap ++ (word ++ back)).filter isAlphanumeric) :
    (∀ c ∈ gap, isAlphanumeric c = false) ∧ (∀ c ∈ word, isAlphanumeric c = true) ∧
      later = back.filter isAlphanumeric := by
  have all : ∀ c ∈ word ++ later, isAlphanumeric c = true := by
    intro c member
    rw [whole] at member
    exact (List.mem_filter.mp member).2
  rw [List.forall_mem_append] at all
  have word_eq : word.filter isAlphanumeric = word := List.filter_eq_self.mpr all.1
  have kept : later.Sublist (back.filter isAlphanumeric) := by
    rw [← List.filter_eq_self.mpr all.2]
    exact inside.filter _
  have lengths := congrArg List.length whole
  simp only [List.filter_append, word_eq, List.length_append] at lengths
  have shorter := kept.length_le
  refine ⟨?_, all.1, kept.eq_of_length_le (by omega)⟩
  have none : gap.filter isAlphanumeric = [] := List.length_eq_zero_iff.mp (by omega)
  simpa using List.filter_eq_nil_iff.mp none

/-- A piece does not end where it could go on: the next one would have to start there. -/
theorem Segments.continues_eq_false
    (segments : Segments name (piece :: piecesFrom piece.stop cs)) :
    ∀ c ∈ cs.head?, continues c = false := by
  cases cs with
  | nil => simp
  | cons c cs =>
      intro d first
      obtain rfl : c = d := by simpa using first
      by_contra goesOn
      obtain ⟨alphanumeric, small⟩ : isAlphanumeric c = true ∧ isUppercase c = false := by
        simpa [continues] using goesOn
      have apart := (List.isChain_cons.mp segments.apart).1
      rw [piecesFrom_cons alphanumeric] at apart
      rcases apart _ rfl with ⟨front, d, back, -, -, above, below⟩ | capital
      · exact absurd below (Nat.not_lt.mpr above)
      · simp [startsWith, small] at capital

theorem Segments.eq_piecesFrom (segments : Segments name pieces) (split : name = done ++ cs)
    (after : ∀ piece ∈ pieces, byteLength done ≤ piece.start)
    (whole : pieces.flatMap (·.word) = cs.filter isAlphanumeric) :
    pieces = piecesFrom (byteLength done) cs := by
  induction pieces generalizing done cs with
  | nil =>
      have blank : ∀ c ∈ cs, isAlphanumeric c = false := by
        simpa using List.filter_eq_nil_iff.mp whole.symm
      rw [← List.append_nil cs, piecesFrom_append_of_not blank, piecesFrom_nil]
  | cons piece pieces ih =>
      obtain ⟨gap, back, rfl, start, stop, placed⟩ :=
        segments.exists_gap split (after piece List.mem_cons_self)
      have following := stop ▸ segments.stop_le
      have inside := segments.tail.flatMap_sublist placed following
      obtain ⟨blank, alphanumeric, rest⟩ := filter_split inside whole
      have later := ih segments.tail placed following rest
      rw [stop] at later
      rw [later] at segments ⊢
      rw [piecesFrom_append_of_not blank, start]
      symm
      exact piecesFrom_word_append (segments.nonempty piece List.mem_cons_self) alphanumeric
        (segments.small piece List.mem_cons_self) segments.continues_eq_false

/-! ## Words are pieces -/

theorem isUppercase_of_not_continues (alphanumeric : isAlphanumeric c = true)
    (ends : continues c = false) : isUppercase c = true := by
  simpa [continues, alphanumeric] using ends

theorem apart_piecesFrom (done cs : List Char) (ends : ∀ c ∈ cs.head?, continues c = false) :
    ∀ next ∈ (piecesFrom (byteLength done) cs).head?,
      Separated (done ++ cs) (byteLength done) next.start ∨
        startsWith isUppercase next.word = true := by
  intro next isNext
  cases cs with
  | nil => simp [piecesFrom_nil] at isNext
  | cons c cs =>
      cases alphanumeric : isAlphanumeric c with
      | true =>
          rw [piecesFrom_cons alphanumeric, List.head?_cons, Option.mem_some] at isNext
          right
          simpa [← isNext, startsWith] using isUppercase_of_not_continues alphanumeric (ends c rfl)
      | false =>
          rw [piecesFrom_of_not alphanumeric] at isNext
          have after := le_start_of_mem_piecesFrom (List.mem_of_mem_head? isNext)
          have positive := c.utf8Size_pos
          exact .inl ⟨done, c, cs, rfl, alphanumeric, Nat.le_refl _, by omega⟩

theorem segments_piecesFrom (done cs : List Char) :
    Segments (done ++ cs) (piecesFrom (byteLength done) cs) := by
  induction cs using words_induction generalizing done with
  | nil =>
      rw [piecesFrom_nil]
      exact ⟨by simp, by simp, .nil, by simp, .nil⟩
  | other c cs other ih =>
      have rest := ih (done ++ [c])
      rw [piecesFrom_of_not other]
      simpa using rest
  | word c cs alphanumeric ih =>
      have placed : done ++ c :: cs =
          done ++ (c :: cs.takeWhile continues ++ cs.dropWhile continues) := by
        rw [List.cons_append, List.takeWhile_append_dropWhile]
      have apart := apart_piecesFrom (done ++ c :: cs.takeWhile continues)
        (cs.dropWhile continues) fun d => continues_of_mem_head?
      have rest := ih (done ++ c :: cs.takeWhile continues)
      rw [List.append_assoc, ← placed, byteLength_append] at rest apart
      rw [piecesFrom_cons alphanumeric]
      refine rest.cons ?_ (List.cons_ne_nil _ _) ?_ ?_ apart
      · exact between?_eq_some.mpr ⟨done, cs.dropWhile continues, placed, rfl, rfl⟩
      · exact fun d member => (isAlphanumeric_of_mem_takeWhile member).2
      · exact fun later member => le_start_of_mem_piecesFrom member

theorem decomposes_iff : Decomposes name pieces ↔ pieces = piecesFrom 0 name := by
  constructor
  · intro decomposes
    exact decomposes.eq_piecesFrom (List.nil_append name).symm (fun _ _ => Nat.zero_le _)
      decomposes.whole
  · rintro rfl
    refine ⟨segments_piecesFrom [] name, ?_⟩
    rw [List.flatMap_def, map_word_piecesFrom, flatten_words]

/-- The words of a name are pieces of it, cut out between its characters one after another: together
they hold its letters and digits, only their first characters can be capitals, and where nothing
separates two of them the second one starts with a capital. No other pieces do all this. -/
theorem words_decompose_uniquely (name : String) :
    ∃ pieces, wordsOf name = pieces.map (fun piece => String.ofList piece.word) ∧
      Decomposes name.toList pieces ∧
      ∀ others, Decomposes name.toList others → others = pieces := by
  refine ⟨piecesFrom 0 name.toList, ?_, decomposes_iff.mpr rfl, fun _ => decomposes_iff.mp⟩
  rw [wordsOf, ← map_word_piecesFrom 0, List.map_map]
  rfl

end SharpLint.Names
