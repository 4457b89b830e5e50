import Mathlib.Data.List.Infix
import Mathlib.Data.List.TakeWhile
import SharpLint.Text.Search
import SharpLint.Text.WordCharacter

/-!
# Searching text

A search says whether a part occurs somewhere (`contains_iff`), and whether a word stands somewhere
on its own, between the ends of the text and characters that belong to no word
(`hasWholeWord_iff`). What is cut off in front of a character or behind one is told by what stands
next to the cut (`takeWhile_eq_iff`, `afterLast_eq_iff`).
-/

namespace SharpLint.Text

/-- The word occurs in the text, and the characters next to it belong to no word. -/
def StandsAlone (word text : String) : Prop :=
  ∃ before after, text.toList = before ++ word.toList ++ after ∧
    (∀ c ∈ before.getLast?, isWordCharacter c = false) ∧
    ∀ c ∈ after.head?, isWordCharacter c = false

variable {part word cs : List Char}

theorem occursIn_iff : occursIn part cs = true ↔ part <:+: cs := by
  induction cs with
  | nil => rw [occursIn, List.isEmpty_iff, List.infix_nil]
  | cons c cs ih =>
      rw [occursIn, Bool.or_eq_true, List.isPrefixOf_iff_prefix, ih, List.infix_cons_iff]

theorem contains_iff {text part : String} :
    contains text part = true ↔ part.toList <:+: text.toList := occursIn_iff

theorem takeWhile_eq_iff {inside : Char → Bool} {kept : List Char} :
    cs.takeWhile inside = kept ↔ ∃ rest, cs = kept ++ rest ∧ (∀ c ∈ kept, inside c = true) ∧
      ∀ c ∈ rest.head?, inside c = false := by
  constructor
  · rintro rfl
    refine ⟨cs.dropWhile inside, List.takeWhile_append_dropWhile.symm,
      fun c => List.mem_takeWhile_imp, ?_⟩
    intro c member
    have stops := List.head?_dropWhile_not inside cs
    rw [Option.mem_def.mp member] at stops
    simpa using stops
  · rintro ⟨rest, rfl, keeps, stops⟩
    rw [List.takeWhile_append_of_pos keeps]
    cases rest with
    | nil => simp
    | cons c rest => simp [stops c rfl]

theorem afterLast_eq_iff {separator : Char} {back : List Char} :
    afterLast separator cs = back ↔ ∃ front, cs = front ++ back ∧ separator ∉ back ∧
      ∀ c ∈ front.getLast?, c = separator := by
  rw [afterLast, List.reverse_eq_iff, takeWhile_eq_iff]
  constructor
  · rintro ⟨rest, split, keeps, stops⟩
    refine ⟨rest.reverse, ?_, fun member => ?_, ?_⟩
    · rw [← List.reverse_reverse cs, split, List.reverse_append, List.reverse_reverse]
    · simpa using keeps separator (List.mem_reverse.mpr member)
    · simpa using stops
  · rintro ⟨front, rfl, without, stops⟩
    refine ⟨front.reverse, List.reverse_append, ?_, ?_⟩
    · intro c member
      simpa using ne_of_mem_of_not_mem (List.mem_reverse.mp member) without
    · simpa using stops

theorem startsWithWord_iff {inside : Bool} :
    (!inside && word.isPrefixOf cs &&
        !((cs.drop word.length).head?.map isWordCharacter).getD false) = true ↔
      ∃ after, cs = word ++ after ∧ inside = false ∧
        ∀ c ∈ after.head?, isWordCharacter c = false := by
  simp only [Bool.and_eq_true, Bool.not_eq_true', List.isPrefixOf_iff_prefix]
  have closed (after : List Char) : (after.head?.map isWordCharacter).getD false = false ↔
      ∀ c ∈ after.head?, isWordCharacter c = false := by
    cases after.head? <;> simp
  constructor
  · rintro ⟨⟨outside, after, rfl⟩, ends⟩
    rw [List.drop_left, closed] at ends
    exact ⟨after, rfl, outside, ends⟩
  · rintro ⟨after, rfl, outside, ends⟩
    rw [List.drop_left, closed]
    exact ⟨⟨outside, List.prefix_append _ _⟩, ends⟩

theorem hasWholeWordAfter_iff {inside : Bool} :
    hasWholeWordAfter word inside cs = true ↔
      ∃ before after, cs = before ++ word ++ after ∧
        (before.getLast?.map isWordCharacter).getD inside = false ∧
        ∀ c ∈ after.head?, isWordCharacter c = false := by
  -- The word stands right here, or after a first character that decides what is before it.
  induction cs generalizing inside with
  | nil => simp [hasWholeWordAfter, and_comm, and_assoc]
  | cons c cs ih =>
      rw [hasWholeWordAfter, Bool.or_eq_true, startsWithWord_iff, ih]
      constructor
      · rintro (⟨after, same, outside, ends⟩ | ⟨before, after, rfl, starts, ends⟩)
        · exact ⟨[], after, same, outside, ends⟩
        · refine ⟨c :: before, after, rfl, ?_, ends⟩
          rw [List.getLast?_cons, ← starts]
          cases before.getLast? <;> rfl
      · rintro ⟨before, after, same, starts, ends⟩
        cases before with
        | nil => exact .inl ⟨after, same, starts, ends⟩
        | cons first before =>
            obtain ⟨rfl, rfl⟩ := List.cons.inj same
            refine .inr ⟨before, after, rfl, ?_, ends⟩
            rw [List.getLast?_cons] at starts
            rw [← starts]
            cases before.getLast? <;> rfl

theorem hasWholeWord_iff {word text : String} :
    hasWholeWord word text = true ↔ StandsAlone word text := by
  rw [hasWholeWord, hasWholeWordAfter_iff, StandsAlone]
  refine exists_congr fun before => exists_congr fun after => and_congr_right fun _ =>
    and_congr_left fun _ => ?_
  cases before.getLast? <;> simp

end SharpLint.Text
