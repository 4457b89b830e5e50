import Mathlib.Data.List.DropRight
import Mathlib.Data.List.Forall2
import SharpLint.Proofs.Names.Cuts

/-!
# Where placeholders stand

A placeholder is found by its surroundings (`ShowsAt`): the name comes right after a run of opening
braces of odd length, of which all but the last one go together in pairs, and right before a mark
that closes it. The scan never looks at the length of a run. It drops braces in pairs, and
`opened_cons_cons` says why that is the same. `placeholders_exact` puts it all together: the names
that are found are those that stand at such places, in the order in which they do.
-/

namespace SharpLint.Names

open Text

variable {c : Char} {cs front : List Char} {offset : Nat} {name : String}

/-- The characters end with an odd number of opening braces, counted back to the first other
character. -/
def Opened (front : List Char) : Prop := (front.rtakeWhile isOpening).length % 2 = 1

/-- The characters start with a name of ASCII letters, digits and underscores, no digit first, that
goes on up to a mark which ends placeholders. -/
def StartsWithName (cs : List Char) (name : String) : Prop :=
  name ≠ "" ∧ (∀ c ∈ name.toList, c.isAlphanum = true ∨ c = '_') ∧
    (∀ c ∈ name.toList.head?, c.isDigit = false) ∧
    ∃ stop after, cs = name.toList ++ stop :: after ∧ (stop = '\x7d' ∨ stop = ':' ∨ stop = ',')

/-- The text shows the name between braces, and the name starts at the offset. -/
def ShowsAt (text : List Char) (offset : Nat) (name : String) : Prop :=
  ∃ front back, text = front ++ back ∧ byteLength front = offset ∧ Opened front ∧
    StartsWithName back name

def placeholdersFrom (offset : Nat) : List Char → List (Nat × String)
  | [] => []
  | '\x7b' :: '\x7b' :: cs => placeholdersFrom (offset + 2) cs
  | '\x7b' :: cs =>
    (placeholderAt? cs).toList.map (offset + 1, ·) ++ placeholdersFrom (offset + 1) cs
  | c :: cs => placeholdersFrom (offset + c.utf8Size) cs

/-! ## Runs of braces -/

theorem length_rtakeWhile_cons (condition : Char → Bool) (c : Char) (front : List Char) :
    ((c :: front).rtakeWhile condition).length =
      if front.all condition && condition c then front.length + 1
      else (front.rtakeWhile condition).length := by
  induction front using List.reverseRecOn with
  | nil => cases holds : condition c <;> simp [List.rtakeWhile, holds]
  | append_singleton front last ih =>
      rw [← List.cons_append, List.rtakeWhile_concat, List.rtakeWhile_concat]
      cases holds : condition last with
      | false => simp [holds]
      | true =>
          rw [if_pos rfl, if_pos rfl, List.length_append, ih, List.length_append, List.all_append]
          simp only [List.all_cons, List.all_nil, holds, Bool.and_true]
          split <;> simp

theorem not_opened_nil : ¬Opened [] := by simp [Opened]

theorem opened_singleton : Opened ['\x7b'] := by simp [Opened, List.rtakeWhile, isOpening]

theorem opened_cons_of_not_all (other : front.all isOpening = false) :
    Opened (c :: front) ↔ Opened front := by
  simp [Opened, length_rtakeWhile_cons, other]

theorem opened_cons_of_not (other : c ≠ '\x7b') : Opened (c :: front) ↔ Opened front := by
  simp [Opened, length_rtakeWhile_cons, isOpening, other]

theorem opened_cons_cons : Opened ('\x7b' :: '\x7b' :: front) ↔ Opened front := by
  cases all : front.all isOpening with
  | false => rw [opened_cons_of_not_all (by simp [all]), opened_cons_of_not_all all]
  | true =>
      have run : front.rtakeWhile isOpening = front :=
        List.rtakeWhile_eq_self_iff.mpr (List.all_eq_true.mp all)
      simp [Opened, length_rtakeWhile_cons, all, run, isOpening, Nat.add_assoc]

/-! ## Names after a brace -/

theorem StartsWithName.head? (starts : StartsWithName cs name) : cs.head? ≠ some '\x7b' := by
  obtain ⟨nonempty, characters, -, stop, after, rfl, -⟩ := starts
  obtain ⟨first, rest, split⟩ :=
    List.exists_cons_of_ne_nil (mt String.toList_eq_nil_iff.mp nonempty)
  rw [split, List.cons_append, List.head?_cons]
  rintro ⟨⟩
  have listed := characters '\x7b' (split ▸ List.mem_cons_self)
  exact absurd listed (by decide)

theorem startsWithName_of_placeholderAt? (found : placeholderAt? cs = some name) :
    StartsWithName cs name := by
  have split := List.takeWhile_append_dropWhile (p := isPlaceholderCharacter) (l := cs)
  have listed := List.all_eq_true.mp (List.all_takeWhile (p := isPlaceholderCharacter) (l := cs))
  unfold placeholderAt? at found
  dsimp only at found
  split at found
  · rename_i first rest stop after taken left
    split at found
    · rename_i accepted
      cases found
      rw [taken] at listed split ⊢
      rw [left] at split
      simp only [Bool.and_eq_true, Bool.not_eq_true', Bool.or_eq_true, decide_eq_true_eq,
        or_assoc] at accepted
      refine ⟨by simp, ?_, by simpa using accepted.1, stop, after, ?_, accepted.2⟩
      · simpa [isPlaceholderCharacter] using listed
      · rw [String.toList_ofList, split]
    · cases found
  · cases found

theorem placeholderAt?_of_startsWithName (starts : StartsWithName cs name) :
    placeholderAt? cs = some name := by
  obtain ⟨nonempty, characters, noDigit, stop, after, rfl, closing⟩ := starts
  -- The mark is no part of a name, so what is taken of the characters ends right before it.
  have inside : ∀ c ∈ name.toList, isPlaceholderCharacter c = true := by
    simpa [isPlaceholderCharacter] using characters
  have outside : isPlaceholderCharacter stop = false := by
    rcases closing with rfl | rfl | rfl <;> decide
  have taken : (name.toList ++ stop :: after).takeWhile isPlaceholderCharacter = name.toList := by
    rw [List.takeWhile_append_of_pos inside, List.takeWhile_cons_of_neg (by simp [outside]),
      List.append_nil]
  have left : (name.toList ++ stop :: after).dropWhile isPlaceholderCharacter = stop :: after := by
    rw [List.dropWhile_append_of_pos inside, List.dropWhile_cons_of_neg (by simp [outside])]
  obtain ⟨first, rest, split⟩ :=
    List.exists_cons_of_ne_nil (mt String.toList_eq_nil_iff.mp nonempty)
  have accepted : (!first.isDigit && (stop = '\x7d' || stop = ':' || stop = ',')) = true := by
    simpa [or_assoc, closing] using noDigit first (by rw [split, List.head?_cons]; rfl)
  rw [placeholderAt?, taken, left, split]
  dsimp only
  rw [if_pos accepted, ← split, String.ofList_toList]

theorem placeholderAt?_eq_some : placeholderAt? cs = some name ↔ StartsWithName cs name :=
  ⟨startsWithName_of_placeholderAt?, placeholderAt?_of_startsWithName⟩

/-! ## One step of the scan -/

theorem not_showsAt_nil : ¬ShowsAt [] offset name := by
  rintro ⟨front, back, split, -, opened, -⟩
  rw [(List.append_eq_nil_iff.mp split.symm).1] at opened
  exact not_opened_nil opened

theorem showsAt_cons :
    ShowsAt (c :: cs) offset name ↔ ∃ front back, cs = front ++ back ∧
      c.utf8Size + byteLength front = offset ∧ Opened (c :: front) ∧ StartsWithName back name := by
  constructor
  · rintro ⟨front, back, split, size, opened, starts⟩
    cases front with
    | nil => exact absurd opened not_opened_nil
    | cons first front =>
        rw [List.cons_append, List.cons.injEq] at split
        obtain ⟨rfl, rest⟩ := split
        exact ⟨front, back, rest, size, opened, starts⟩
  · rintro ⟨front, back, rfl, size, opened, starts⟩
    exact ⟨c :: front, back, rfl, size, opened, starts⟩

theorem showsAt_of_other (other : c ≠ '\x7b') :
    ShowsAt (c :: cs) offset name ↔
      ∃ later, offset = c.utf8Size + later ∧ ShowsAt cs later name := by
  rw [showsAt_cons]
  constructor
  · rintro ⟨front, back, split, rfl, opened, starts⟩
    exact ⟨_, rfl, front, back, split, rfl, (opened_cons_of_not other).mp opened, starts⟩
  · rintro ⟨_, rfl, front, back, split, rfl, opened, starts⟩
    exact ⟨front, back, split, rfl, (opened_cons_of_not other).mpr opened, starts⟩

theorem showsAt_of_double :
    ShowsAt ('\x7b' :: '\x7b' :: cs) offset name ↔
      ∃ later, offset = 2 + later ∧ ShowsAt cs later name := by
  have size : 2 = '\x7b'.utf8Size + '\x7b'.utf8Size := by decide
  rw [showsAt_cons, size]
  constructor
  · rintro ⟨front, back, split, rfl, opened, starts⟩
    cases front with
    | nil =>
        -- A name would start with the second brace.
        exact absurd (by rw [← List.nil_append back, ← split, List.head?_cons]) starts.head?
    | cons first front =>
        rw [List.cons_append, List.cons.injEq] at split
        obtain ⟨rfl, rest⟩ := split
        refine ⟨byteLength front, ?_, front, back, rest, rfl, opened_cons_cons.mp opened, starts⟩
        rw [byteLength_cons, Nat.add_assoc]
  · rintro ⟨_, rfl, front, back, rfl, rfl, opened, starts⟩
    refine ⟨'\x7b' :: front, back, rfl, ?_, opened_cons_cons.mpr opened, starts⟩
    rw [byteLength_cons, Nat.add_assoc]

theorem showsAt_of_single (alone : cs.head? ≠ some '\x7b') :
    ShowsAt ('\x7b' :: cs) offset name ↔
      offset = 1 ∧ StartsWithName cs name ∨
        ∃ later, offset = 1 + later ∧ ShowsAt cs later name := by
  have size : '\x7b'.utf8Size = 1 := by decide
  -- The character after the brace ends its run, and says nothing about the runs that follow.
  have behind (front back : List Char) (split : cs = front ++ back) (started : front ≠ []) :
      Opened ('\x7b' :: front) ↔ Opened front := by
    obtain ⟨first, rest, rfl⟩ := List.exists_cons_of_ne_nil started
    rw [split, List.cons_append, List.head?_cons, ne_eq, Option.some.injEq] at alone
    exact opened_cons_of_not_all (by simp [isOpening, alone])
  rw [showsAt_cons, size]
  constructor
  · rintro ⟨front, back, split, rfl, opened, starts⟩
    by_cases here : front = []
    · rw [here, List.nil_append] at split
      rw [here, split]
      exact .inl ⟨rfl, starts⟩
    · exact .inr ⟨_, rfl, front, back, split, rfl, (behind front back split here).mp opened, starts⟩
  · rintro (⟨rfl, starts⟩ | ⟨_, rfl, front, back, split, rfl, opened, starts⟩)
    · exact ⟨[], cs, rfl, rfl, opened_singleton, starts⟩
    · have started : front ≠ [] := fun empty => not_opened_nil (empty ▸ opened)
      exact ⟨front, back, split, rfl, (behind front back split started).mpr opened, starts⟩

/-! ## The whole scan -/

theorem map_snd_placeholdersFrom (offset : Nat) (cs : List Char) :
    (placeholdersFrom offset cs).map (·.2) = placeholdersIn cs := by
  fun_induction placeholdersFrom offset cs with
  | case1 => rfl
  | case2 offset cs ih => rw [ih, placeholdersIn]
  | case3 offset cs single ih =>
      rw [List.map_append, ih, List.map_map, placeholdersIn]
      · simp [Function.comp_def]
      · exact single
  | case4 offset c cs notDouble notOpening ih =>
      rw [ih, placeholdersIn]
      · exact notDouble
      · exact notOpening

theorem mem_placeholdersFrom {start : Nat} :
    (start, name) ∈ placeholdersFrom offset cs ↔
      ∃ later, start = offset + later ∧ ShowsAt cs later name := by
  fun_induction placeholdersFrom offset cs with
  | case1 => simp [not_showsAt_nil]
  | case2 offset cs ih => simp [ih, showsAt_of_double, Nat.add_assoc]
  | case3 offset cs single ih =>
      have alone : cs.head? ≠ some '\x7b' := by
        cases cs with
        | nil => simp
        | cons c cs => simpa using fun same => single cs (by rw [same])
      rw [List.mem_append, ih]
      simp only [showsAt_of_single alone, ← placeholderAt?_eq_some]
      simp [Nat.add_assoc, exists_or, and_or_left, and_comm, eq_comm]
  | case4 offset c cs notDouble notOpening ih =>
      simp [ih, showsAt_of_other notOpening, Nat.add_assoc]

theorem lt_of_mem_placeholdersFrom {start : Nat}
    (member : (start, name) ∈ placeholdersFrom offset cs) : offset < start := by
  obtain ⟨later, rfl, front, back, -, rfl, opened, -⟩ := mem_placeholdersFrom.mp member
  cases front with
  | nil => exact absurd opened not_opened_nil
  | cons c front =>
      have positive := c.utf8Size_pos
      rw [byteLength_cons]
      omega

theorem pairwise_placeholdersFrom (offset : Nat) (cs : List Char) :
    (placeholdersFrom offset cs).Pairwise (·.1 < ·.1) := by
  fun_induction placeholdersFrom offset cs with
  | case1 => exact .nil
  | case2 offset cs ih => exact ih
  | case3 offset cs single ih =>
      refine List.pairwise_append.mpr ⟨?_, ih, ?_⟩
      · cases placeholderAt? cs <;> simp
      · rintro here first ⟨start, name⟩ later
        obtain ⟨_, _, rfl⟩ := List.mem_map.mp first
        exact lt_of_mem_placeholdersFrom later
  | case4 offset c cs notDouble notOpening ih => exact ih

/-- The names of the placeholders are those that the text shows, in order. They are found in the
bytes of the text without a cut inside of a character. -/
theorem placeholders_exact (text : String) :
    scanPlaceholders? text = some (placeholdersOf text) ∧
      ∃ starts : List Nat, starts.Pairwise (· < ·) ∧
        (∀ start, start ∈ starts ↔ ∃ name, ShowsAt text.toList start name) ∧
        List.Forall₂ (fun start name => ShowsAt text.toList start name ∧
            between? text.toList start (start + byteLength name.toList) = some name.toList)
          starts (placeholdersOf text) := by
  refine ⟨scanPlaceholders?_eq text, (placeholdersFrom 0 text.toList).map (·.1), ?_, ?_, ?_⟩
  · exact List.pairwise_map.mpr (pairwise_placeholdersFrom 0 text.toList)
  · simp [mem_placeholdersFrom]
  · rw [placeholdersOf, ← map_snd_placeholdersFrom 0, List.forall₂_map_left_iff,
      List.forall₂_map_right_iff, List.forall₂_same]
    rintro ⟨start, name⟩ member
    obtain ⟨_, rfl, shows⟩ := mem_placeholdersFrom.mp member
    rw [Nat.zero_add]
    refine ⟨shows, ?_⟩
    obtain ⟨front, _, split, size, -, -, -, -, stop, after, rfl, -⟩ := shows
    exact between?_eq_some.mpr ⟨front, stop :: after, split, size, rfl⟩

example :
    placeholdersOf "\x7b\x7b\x7ba\x7d\x7d \x7b\x7bb\x7d \x7b1\x7d \x7bc:x\x7d" = ["a", "c"] := by
  decide

end SharpLint.Names
