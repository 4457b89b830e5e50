import Mathlib.Data.List.Basic
import SharpLint.Files.Sources

/-!
# Paths of names

Joining a name to a path adds it to the parts of the path (`components_joinAll`), whether the path
ends in a slash or not. Such a path can be looked up unless it is too long (`isPath_joinAll`,
`checkPath_of_isPath`).
-/

namespace SharpLint.Files

structure IsName (name : String) : Prop where
  noSlash : '/' ∉ name.toList
  noNull : '\x00' ∉ name.toList
  notHere : isHere name = false
  notAbove : name ≠ ".."

instance (name : String) : Decidable (IsName name) :=
  decidable_of_iff
    ('/' ∉ name.toList ∧ '\x00' ∉ name.toList ∧ isHere name = false ∧ name ≠ "..")
    ⟨fun ⟨noSlash, noNull, notHere, notAbove⟩ => ⟨noSlash, noNull, notHere, notAbove⟩,
      fun ⟨noSlash, noNull, notHere, notAbove⟩ => ⟨noSlash, noNull, notHere, notAbove⟩⟩

/-! ## Parts -/

theorem splitAtSlashes_ne_nil (cs : List Char) : splitAtSlashes cs ≠ [] := by
  cases cs with
  | nil => simp [splitAtSlashes]
  | cons c cs =>
      rw [splitAtSlashes]
      split
      · simp
      · split <;> simp

theorem splitAtSlashes_append (front back : List Char) :
    splitAtSlashes (front ++ '/' :: back) = splitAtSlashes front ++ splitAtSlashes back := by
  induction front with
  | nil => simp [splitAtSlashes]
  | cons c front ih =>
      rw [List.cons_append, splitAtSlashes, splitAtSlashes, ih]
      by_cases slash : c = '/'
      · rw [if_pos slash, if_pos slash, List.cons_append]
      · rw [if_neg slash, if_neg slash]
        cases parts : splitAtSlashes front with
        | nil => exact absurd parts (splitAtSlashes_ne_nil front)
        | cons part parts => rfl

theorem splitAtSlashes_of_notMem {cs : List Char} (noSlash : '/' ∉ cs) :
    splitAtSlashes cs = [cs] := by
  induction cs with
  | nil => rfl
  | cons c cs ih =>
      rw [List.mem_cons, not_or] at noSlash
      rw [splitAtSlashes, if_neg (Ne.symm noSlash.1), ih noSlash.2]

theorem of_mem_splitAtSlashes {cs part : List Char} (member : part ∈ splitAtSlashes cs) :
    '/' ∉ part ∧ part ⊆ cs := by
  induction cs generalizing part with
  | nil =>
      rw [List.mem_singleton.mp member]
      exact ⟨List.not_mem_nil, List.nil_subset _⟩
  | cons c cs ih =>
      rw [splitAtSlashes] at member
      split at member
      · rcases List.mem_cons.mp member with rfl | member
        · exact ⟨List.not_mem_nil, List.nil_subset _⟩
        · exact ⟨(ih member).1, List.subset_cons_of_subset c (ih member).2⟩
      · rename_i notSlash
        cases parts : splitAtSlashes cs with
        | nil => exact absurd parts (splitAtSlashes_ne_nil cs)
        | cons first parts =>
            rw [parts] at member ih
            rcases List.mem_cons.mp member with rfl | member
            · have start := ih List.mem_cons_self
              exact ⟨List.not_mem_cons_of_ne_of_not_mem (Ne.symm notSlash) start.1,
                List.cons_subset_cons c start.2⟩
            · have rest := ih (List.mem_cons_of_mem first member)
              exact ⟨rest.1, List.subset_cons_of_subset c rest.2⟩

theorem components_append_slash (front back : String) :
    components (front ++ "/" ++ back) = components front ++ components back := by
  have slash : "/".toList = ['/'] := rfl
  rw [components, segments, String.toList_append, String.toList_append, slash, List.append_assoc,
    List.singleton_append, splitAtSlashes_append, List.map_append, List.filter_append]
  rfl

theorem components_name {name : String} (isName : IsName name) : components name = [name] := by
  rw [components, segments, splitAtSlashes_of_notMem isName.noSlash, List.map_cons, List.map_nil,
    String.ofList_toList, List.filter_cons_of_pos (by simp [isName.notHere]), List.filter_nil]

theorem join_cases (path name : String) :
    (path = "" ∧ join path name = name) ∨
    (∃ front, path = front ++ "/" ∧ join path name = front ++ "/" ++ name) ∨
    join path name = path ++ "/" ++ name := by
  rcases List.eq_nil_or_concat path.toList with empty | ⟨front, last, ends⟩
  · have nothing : path = "" := String.toList_eq_nil_iff.mp empty
    exact .inl ⟨nothing, by simp [join, nothing]⟩
  · by_cases slash : last = '/'
    · have split : path = String.ofList front ++ "/" := by
        rw [← String.toList_inj, ends, slash, String.toList_append, String.toList_ofList,
          List.concat_eq_append]
        rfl
      refine .inr (.inl ⟨_, split, ?_⟩)
      rw [join, if_pos (by simp [ends, slash]), split]
    · exact .inr (.inr (by rw [join, if_neg (by simp [ends, slash])]))

theorem components_join (path : String) {name : String} (isName : IsName name) :
    components (join path name) = components path ++ [name] := by
  have nothing : components "" = [] := rfl
  rcases join_cases path name with ⟨empty, joined⟩ | ⟨front, closed, joined⟩ | joined
  · rw [joined, empty, nothing, components_name isName, List.nil_append]
  · have before : components path = components front := by
      rw [closed, ← String.append_empty (s := front ++ "/"), components_append_slash, nothing,
        List.append_nil]
    rw [joined, components_append_slash, components_name isName, before]
  · rw [joined, components_append_slash, components_name isName]

theorem components_joinAll (path : String) {names : List String}
    (areNames : ∀ name ∈ names, IsName name) :
    components (joinAll path names) = components path ++ names := by
  induction names generalizing path with
  | nil => rw [joinAll, List.foldl_nil, List.append_nil]
  | cons name names ih =>
      rw [List.forall_mem_cons] at areNames
      have rest := ih (join path name) areNames.2
      rw [joinAll] at rest ⊢
      rw [List.foldl_cons, rest, components_join path areNames.1, List.append_assoc,
        List.singleton_append]

def IsBare (path : String) : Prop := path.toList.getLast?.all (· = '/') = false

theorem IsBare.join {path name : String} (bare : IsBare path) :
    join path name = path ++ "/" ++ name := by
  rw [Files.join, if_neg (Bool.eq_false_iff.mp bare)]

theorem isBare_append {name : String} (isName : IsName name) (front : String) :
    IsBare (front ++ name) := by
  have nonempty : name.toList ≠ [] := by
    intro empty
    have notHere := isName.notHere
    rw [String.toList_eq_nil_iff.mp empty] at notHere
    cases notHere
  have ends := List.getLast?_eq_some_getLast nonempty
  have notSlash : name.toList.getLast nonempty ≠ '/' := fun slash =>
    isName.noSlash (slash ▸ List.getLast_mem nonempty)
  rw [IsBare, String.toList_append, List.getLast?_append, ends]
  simpa using notSlash

theorem utf8ByteSize_joinAll_replicate {path name : String} (bare : IsBare path)
    (isName : IsName name) (count : Nat) :
    (joinAll path (List.replicate count name)).utf8ByteSize =
      path.utf8ByteSize + count * (name.utf8ByteSize + 1) := by
  induction count generalizing path with
  | zero => simp [joinAll]
  | succ count ih =>
      have slash : "/".utf8ByteSize = 1 := rfl
      have rest := ih (bare.join ▸ isBare_append isName (path ++ "/"))
      rw [joinAll] at rest ⊢
      rw [List.replicate_succ, List.foldl_cons, rest, bare.join, String.utf8ByteSize_append,
        String.utf8ByteSize_append, slash, Nat.succ_mul]
      omega

/-! ## Looking up -/

theorem bind_eq_ok_iff {α β : Type} {computation : Except Fault α} {next : α → Except Fault β}
    {result : β} :
    computation >>= next = .ok result ↔
      ∃ value, computation = .ok value ∧ next value = .ok result := by
  cases computation with
  | error fault => exact ⟨nofun, fun ⟨_, impossible, _⟩ => nomatch impossible⟩
  | ok value => exact ⟨fun h => ⟨value, rfl, h⟩, by rintro ⟨_, ⟨⟩, h⟩; exact h⟩

def IsPath (path : String) : Prop := path ≠ "" ∧ '\x00' ∉ path.toList

theorem checkPath_of_isPath {path : String} (isPath : IsPath path) :
    checkPath path =
      if maxPathLength < path.utf8ByteSize then .error .nameTooLong else .ok () := by
  rw [checkPath, if_neg isPath.2, if_neg isPath.1]

theorem isPath_of_checkPath {path : String} (checked : checkPath path = .ok ()) : IsPath path := by
  unfold checkPath at checked
  split at checked
  · cases checked
  · split at checked
    · cases checked
    · rename_i noNull nonempty
      exact ⟨nonempty, noNull⟩

theorem isPath_of_entry {store : Store} {path : String} {entry : Entry}
    (found : store.entry path = .ok entry) : IsPath path := by
  obtain ⟨location, leads, -⟩ := bind_eq_ok_iff.mp found
  obtain ⟨⟨⟩, checked, -⟩ := bind_eq_ok_iff.mp leads
  exact isPath_of_checkPath checked

theorem isPath_join {path name : String} (isPath : IsPath path) (isName : IsName name) :
    IsPath (join path name) := by
  have slash : "/".toList = ['/'] := rfl
  obtain ⟨nonempty, noNull⟩ := isPath
  rcases join_cases path name with ⟨empty, -⟩ | ⟨front, closed, joined⟩ | joined
  · exact absurd empty nonempty
  · rw [joined, ← closed]
    refine ⟨by simp [nonempty], ?_⟩
    simp [noNull, isName.noNull]
  · rw [joined]
    refine ⟨by simp, ?_⟩
    simp [noNull, isName.noNull]

theorem isPath_joinAll {path : String} (isPath : IsPath path) {names : List String}
    (areNames : ∀ name ∈ names, IsName name) : IsPath (joinAll path names) := by
  induction names generalizing path with
  | nil => exact isPath
  | cons name names ih =>
      rw [List.forall_mem_cons] at areNames
      exact ih (isPath_join isPath areNames.1) areNames.2

end SharpLint.Files
