import Mathlib.Data.List.Induction
import SharpLint.Proofs.Text.Offsets

/-!
# Positions and texts of offsets

A source looks positions and texts up in a table of marks. What it finds there is said here by the
bytes of the text alone:

* `position_eq`: the position of an offset is found by counting the bytes before it
  (`positionByCounting`), and different offsets have different positions
  (`positionByCounting_injective`);
* `utf8_slice_isPrefix`: the bytes of a slice stand in the source where the slice starts.
-/

namespace SharpLint

def Position.afterByte (position : Position) (byte : UInt8) : Position :=
  if byte = 10 then ⟨position.line + 1, 1⟩ else ⟨position.line, position.column + 1⟩

/-- The position of an offset: the line is one more than the line ends before it, and the column
one more than the bytes since the last of them. -/
def Source.positionByCounting (source : Source) (offset : Nat) : Position where
  line := (source.bytes.take offset).count 10 + 1
  column := ((source.bytes.take offset).reverse.takeWhile (· ≠ 10)).length + 1

/-! ## Bytes and positions -/

theorem foldl_afterByte (bytes : List UInt8) :
    bytes.foldl Position.afterByte ⟨1, 1⟩ =
      ⟨bytes.count 10 + 1, (bytes.reverse.takeWhile (· ≠ 10)).length + 1⟩ := by
  induction bytes using List.reverseRecOn with
  | nil => rfl
  | append_singleton bytes byte ih =>
      rw [List.foldl_append, ih, List.count_append, List.reverse_append]
      by_cases lineEnd : byte = 10
      · simp [Position.afterByte, lineEnd]
      · simp [Position.afterByte, lineEnd]

theorem foldl_afterByte_of_notMem {bytes : List UInt8} (oneLine : 10 ∉ bytes)
    (position : Position) :
    bytes.foldl Position.afterByte position =
      ⟨position.line, position.column + bytes.length⟩ := by
  induction bytes generalizing position with
  | nil => rfl
  | cons byte bytes ih =>
      rw [List.mem_cons, not_or] at oneLine
      rw [List.foldl_cons, ih oneLine.2, Position.afterByte, if_neg (Ne.symm oneLine.1),
        List.length_cons, Nat.add_assoc, Nat.add_comm 1]

theorem ten_notMem_utf8EncodeChar {c : Char} (other : c ≠ '\n') :
    10 ∉ String.utf8EncodeChar c := by
  intro member
  have ascii : Text.IsAscii (· = '\n') := by
    intro lineEnd holds
    rw [of_decide_eq_true holds]
    decide
  have same := Text.eq_of_mem_utf8EncodeChar ascii 10 member
  exact other (of_decide_eq_true same.symm)

theorem after_eq_foldl (position : Position) (c : Char) :
    position.after c = (String.utf8EncodeChar c).foldl Position.afterByte position := by
  by_cases lineEnd : c = '\n'
  · subst lineEnd
    rfl
  · rw [foldl_afterByte_of_notMem (ten_notMem_utf8EncodeChar lineEnd),
      String.length_utf8EncodeChar, Position.after, if_neg lineEnd]

/-! ## Marks -/

def marksFrom (position : Position) : List Char → List Mark
  | [] => [{ position, rest := some [] }]
  | c :: cs =>
    { position, rest := some (c :: cs) } ::
      (marksInside position c ++ marksFrom (position.after c) cs)

theorem toList_addMarks (marks : Array Mark) (position : Position) (cs : List Char) :
    (addMarks marks position cs).toList = marks.toList ++ marksFrom position cs := by
  induction cs generalizing marks position with
  | nil => simp [addMarks, marksFrom]
  | cons c cs ih => simp [addMarks, marksFrom, ih]

/-- The mark of an offset in a text that starts at a position says where the bytes before it lead,
and which text the bytes after it are. -/
def Mark.Describes (mark : Mark) (position : Position) (bytes : List UInt8) (offset : Nat) : Prop :=
  mark.position = (bytes.take offset).foldl Position.afterByte position ∧
    ∀ rest, mark.rest = some rest → rest.flatMap String.utf8EncodeChar = bytes.drop offset

theorem describes_after {mark : Mark} {position : Position} {c : Char} {bytes : List UInt8}
    {offset : Nat} (past : c.utf8Size ≤ offset)
    (describes : mark.Describes (position.after c) bytes (offset - c.utf8Size)) :
    mark.Describes position (String.utf8EncodeChar c ++ bytes) offset := by
  have size := String.length_utf8EncodeChar c
  constructor
  · rw [List.take_append, List.take_of_length_le (by omega), List.foldl_append, ← after_eq_foldl,
      size]
    exact describes.1
  · intro rest present
    rw [List.drop_append, List.drop_of_length_le (by omega), List.nil_append, size]
    exact describes.2 rest present

theorem describes_inside {position : Position} {c : Char} {bytes : List UInt8} {more : Nat}
    (inside : more + 1 < c.utf8Size) :
    Mark.Describes ⟨⟨position.line, position.column + more + 1⟩, none⟩ position
      (String.utf8EncodeChar c ++ bytes) (more + 1) := by
  have size := String.length_utf8EncodeChar c
  have wide : c ≠ '\n' := by
    rintro rfl
    exact absurd inside (Nat.not_lt.mpr (Nat.le_add_left 1 more))
  have oneLine : 10 ∉ (String.utf8EncodeChar c).take (more + 1) :=
    fun member => ten_notMem_utf8EncodeChar wide (List.mem_of_mem_take member)
  refine ⟨?_, nofun⟩
  rw [List.take_append_of_le_length (by omega), foldl_afterByte_of_notMem oneLine,
    List.length_take_of_le (by omega), Nat.add_assoc]

theorem exists_mark (position : Position) (cs : List Char) {offset : Nat}
    (inside : offset ≤ (cs.flatMap String.utf8EncodeChar).length) :
    ∃ mark, (marksFrom position cs)[offset]? = some mark ∧
      mark.Describes position (cs.flatMap String.utf8EncodeChar) offset := by
  induction cs generalizing position offset with
  | nil =>
      obtain rfl : offset = 0 := by simpa using inside
      exact ⟨_, rfl, rfl, by simp⟩
  | cons c cs ih =>
      have size := String.length_utf8EncodeChar c
      rw [List.flatMap_cons, List.length_append] at inside
      rw [List.flatMap_cons, marksFrom]
      cases offset with
      | zero => exact ⟨_, rfl, rfl, by simp⟩
      | succ more =>
          rw [List.getElem?_cons_succ]
          have count : (marksInside position c).length = c.utf8Size - 1 := by simp [marksInside]
          by_cases here : more + 1 < c.utf8Size
          · rw [List.getElem?_append_left (by omega)]
            refine ⟨_, ?_, describes_inside here⟩
            simp [marksInside, Nat.lt_sub_of_add_lt here]
          · have past : c.utf8Size ≤ more + 1 := Nat.not_lt.mp here
            have left : more + 1 - c.utf8Size ≤ (cs.flatMap String.utf8EncodeChar).length := by
              omega
            obtain ⟨mark, found, describes⟩ := ih (position.after c) left
            rw [List.getElem?_append_right (by omega), count]
            refine ⟨mark, ?_, describes_after past describes⟩
            have positive := c.utf8Size_pos
            rwa [show more - (c.utf8Size - 1) = more + 1 - c.utf8Size by omega]

theorem length_marksFrom (position : Position) (cs : List Char) :
    (marksFrom position cs).length = (cs.flatMap String.utf8EncodeChar).length + 1 := by
  induction cs generalizing position with
  | nil => rfl
  | cons c cs ih =>
      have positive := c.utf8Size_pos
      simp [marksFrom, marksInside, ih]
      omega

namespace Source

/-! ## Sources -/

theorem marks_getElem? (source : Source) {offset : Nat} (inside : offset ≤ source.bytes.length) :
    ∃ mark, source.marks[offset]? = some mark ∧
      mark.Describes ⟨1, 1⟩ source.bytes offset := by
  obtain ⟨mark, found, describes⟩ := exists_mark ⟨1, 1⟩ source.text.toList inside
  refine ⟨mark, ?_, describes⟩
  rw [source.marks_eq, ← Array.getElem?_toList, marksOf, toList_addMarks]
  exact found

theorem position_eq (source : Source) {offset : Nat} (inside : offset ≤ source.bytes.length) :
    source.position offset = source.positionByCounting offset := by
  obtain ⟨mark, found, describes⟩ := source.marks_getElem? inside
  rw [position, found, Option.some_or, Option.map_some, Option.getD_some, describes.1,
    foldl_afterByte]
  rfl

theorem size_marks (source : Source) : source.marks.size = source.bytes.length + 1 := by
  rw [source.marks_eq, marksOf, ← Array.length_toList, toList_addMarks]
  exact length_marksFrom ⟨1, 1⟩ source.text.toList

theorem position_eq_byCounting (source : Source) (offset : Nat) :
    source.position offset = source.positionByCounting offset := by
  by_cases inside : offset ≤ source.bytes.length
  · exact source.position_eq inside
  · have past : source.bytes.length ≤ offset := by omega
    have size := source.size_marks
    have beyond : source.marks[offset]? = none := Array.getElem?_eq_none (by omega)
    have last : source.position offset = source.position source.bytes.length := by
      simp [position, beyond, Array.back?_eq_getElem?, size]
    rw [last, source.position_eq (Nat.le_refl _), positionByCounting, positionByCounting,
      List.take_of_length_le past, List.take_length]

theorem lineAt_mono (source : Source) {first second : Nat} (ordered : first ≤ second) :
    source.lineAt first ≤ source.lineAt second := by
  have earlier := (List.take_sublist_take_left (l := source.bytes) ordered).count_le 10
  simpa only [lineAt, position_eq_byCounting, positionByCounting, Nat.add_le_add_iff_right]

theorem eq_zero_of_positionByCounting_eq (source : Source) {offset more : Nat}
    (inside : offset + more ≤ source.bytes.length)
    (same : source.positionByCounting offset = source.positionByCounting (offset + more)) :
    more = 0 := by
  have length : ((source.bytes.drop offset).take more).length = more := by
    rw [List.length_take_of_le]
    rw [List.length_drop]
    omega
  -- Without a line end in between, the column grows with every byte.
  simp only [positionByCounting, Position.mk.injEq, List.take_add, List.count_append,
    List.reverse_append] at same
  have oneLine : 10 ∉ (source.bytes.drop offset).take more :=
    List.count_eq_zero.mp (by omega)
  rw [List.takeWhile_append_of_pos, List.length_append, List.length_reverse, length] at same
  · omega
  · intro byte member
    have different : byte ≠ 10 := fun lineEnd => oneLine (lineEnd ▸ List.mem_reverse.mp member)
    simpa using different

theorem positionByCounting_injective (source : Source) {first second : Nat}
    (inside : first ≤ source.bytes.length) (alsoInside : second ≤ source.bytes.length)
    (same : source.positionByCounting first = source.positionByCounting second) :
    first = second := by
  rcases Nat.le_total first second with ordered | ordered
  · obtain ⟨more, rfl⟩ := Nat.exists_eq_add_of_le ordered
    rw [source.eq_zero_of_positionByCounting_eq alsoInside same, Nat.add_zero]
  · obtain ⟨more, rfl⟩ := Nat.exists_eq_add_of_le ordered
    rw [source.eq_zero_of_positionByCounting_eq inside same.symm, Nat.add_zero]

theorem takeBytes_isPrefix {count : Nat} {cs taken : List Char}
    (whole : takeBytes count cs = some taken) : taken <+: cs := by
  fun_induction takeBytes count cs generalizing taken with
  | case1 cs =>
      cases whole
      exact List.nil_prefix
  | case2 => cases whole
  | case3 count c cs fits ih =>
      obtain ⟨rest, more, rfl⟩ := Option.map_eq_some_iff.mp whole
      exact (List.prefix_cons_inj c).mpr (ih more)
  | case4 => cases whole

theorem utf8_slice_isPrefix (source : Source) {start : Nat} (stop : Nat)
    (inside : start ≤ source.bytes.length) :
    utf8 (source.slice start stop) <+: source.bytes.drop start := by
  obtain ⟨⟨position, rest⟩, found, -, describes⟩ := source.marks_getElem? inside
  rw [slice, found, utf8, String.toList_ofList, Option.bind_some]
  cases rest with
  | none => exact List.nil_prefix
  | some rest =>
      rw [Option.bind_some, ← describes rest rfl]
      cases whole : takeBytes (stop - start) rest with
      | none => exact List.nil_prefix
      | some taken =>
          obtain ⟨others, rfl⟩ := takeBytes_isPrefix whole
          rw [Option.getD_some, List.flatMap_append]
          exact List.prefix_append _ _

end Source

end SharpLint
