import SharpLint.Proofs.Files.Trees

/-!
# Changes of well-formed stores

Whatever is written, made or removed, and wherever that fails, a well-formed store stays well-formed
(`Store.WellFormed.change`), and so does everything that a sequence of changes makes of it. What is
shown of well-formed stores thus holds of all that start out empty.
-/

namespace SharpLint.Files

/-! ## Putting something at a location -/

theorem Entry.WellFormed.replace {entry : Entry} (wellFormed : entry.WellFormed) {name : String}
    (isName : IsName name) {new : Option Entry}
    (newWellFormed : ∀ entry, new = some entry → entry.WellFormed) :
    (entry.replace name new).WellFormed := by
  cases wellFormed with
  | file contents => exact .file contents
  | @directory entries areNames distinct below =>
      have kept : ∀ item ∈ entries.filter (·.1 != name), item ∈ entries ∧ item.1 ≠ name := by
        intro item member
        simpa using member
      have added : ∀ item ∈ (new.map (name, ·)).toList, item.1 = name ∧ new = some item.2 := by
        intro item member
        obtain ⟨entry, isNew, rfl⟩ := Option.map_eq_some_iff.mp (Option.mem_toList.mp member)
        exact ⟨rfl, isNew⟩
      -- What stays has other names than what is added, and there is at most one of the latter.
      refine .directory ?_ ?_ ?_
      · intro item member
        rcases List.mem_append.mp member with member | member
        · exact areNames item (kept item member).1
        · rw [(added item member).1]
          exact isName
      · rw [List.map_append, List.nodup_append]
        refine ⟨distinct.sublist (List.filter_sublist.map _), ?_, ?_⟩
        · cases new <;> simp
        · intro old inOld fresh inNew
          obtain ⟨item, member, rfl⟩ := List.mem_map.mp inOld
          obtain ⟨other, otherMember, rfl⟩ := List.mem_map.mp inNew
          rw [(added other otherMember).1]
          exact (kept item member).2
      · intro item member
        rcases List.mem_append.mp member with member | member
        · exact below item (kept item member).1
        · exact newWellFormed item.2 (added item member).2

theorem wellFormed_rebuild {trail : List (String × Entry)}
    (areNames : ∀ item ∈ trail, IsName item.1) (above : ∀ item ∈ trail, item.2.WellFormed)
    {new : Option Entry} (newWellFormed : ∀ entry, new = some entry → entry.WellFormed) :
    ∀ entry, Location.rebuild trail new = some entry → entry.WellFormed := by
  induction trail generalizing new with
  | nil => exact newWellFormed
  | cons item trail ih =>
      rw [List.forall_mem_cons] at areNames above
      apply ih areNames.2 above.2
      rintro entry ⟨⟩
      exact above.1.replace areNames.1 newWellFormed

theorem Store.WellFormed.put {store : Store} (wellFormed : store.WellFormed) {location : Location}
    (inside : location.WellFormed) {new : Option Entry}
    (newWellFormed : ∀ entry, new = some entry → entry.WellFormed) :
    (store.put location new).WellFormed := by
  refine ⟨?_, wellFormed.workingDirectory⟩
  have rebuilt := wellFormed_rebuild inside.names inside.above newWellFormed
  rw [Store.put]
  cases top : Location.rebuild location.trail new with
  | none => exact wellFormed.top
  | some entry => exact rebuilt entry top

/-! ## Single changes -/

theorem mem_segments_of_lastSegment? {path last : String} {before : List String}
    (found : lastSegment? path = some (before, last)) :
    last ∈ segments path ∧ before ⊆ segments path := by
  unfold lastSegment? at found
  split at found
  · cases found
  · rename_i last back ends
    cases found
    have inside : last :: back ⊆ segments path := by
      rw [← ends]
      exact fun segment member => List.mem_reverse.mp ((List.dropWhile_sublist _).subset member)
    rw [List.cons_subset] at inside
    exact ⟨inside.1, fun segment member => inside.2 (List.mem_reverse.mp member)⟩

theorem Store.WellFormed.parentLocation {store : Store} (wellFormed : store.WellFormed)
    {path : String} {parent : Location} {name : Option String}
    (found : store.parentLocation path = .ok (parent, name)) :
    parent.WellFormed ∧ ∀ last, name = some last → IsSegment last := by
  obtain ⟨⟨⟩, checked, found⟩ := bind_eq_ok_iff.mp found
  have isSegment : ∀ segment ∈ segments path, IsSegment segment := fun _ =>
    isSegment_of_mem_segments (isPath_of_checkPath checked)
  split at found
  · cases found
    exact ⟨wellFormed.location_top, nofun⟩
  · rename_i before last ends
    have inside := mem_segments_of_lastSegment? ends
    obtain ⟨parent, walks, found⟩ := bind_eq_ok_iff.mp found
    obtain ⟨⟨⟩, -, found⟩ := bind_eq_ok_iff.mp found
    cases found
    refine ⟨wellFormed.walk (fun segment member => isSegment segment (inside.2 member)) walks, ?_⟩
    intro name named
    split at named
    · cases named
    · cases named
      exact isSegment last inside.1

theorem Store.WellFormed.createDirectory {store next : Store} (wellFormed : store.WellFormed)
    {path : String} (creates : store.createDirectory path = .ok next) : next.WellFormed := by
  obtain ⟨⟨parent, name⟩, found, creates⟩ := bind_eq_ok_iff.mp creates
  have ⟨outer, isSegment⟩ := wellFormed.parentLocation found
  cases name with
  | none => cases creates
  | some last =>
      obtain ⟨location, steps, creates⟩ := bind_eq_ok_iff.mp creates
      split at creates
      · cases creates
      · cases creates
        refine wellFormed.put (outer.step (isSegment last rfl) steps) ?_
        rintro entry ⟨⟩
        exact .directory (List.forall_mem_nil _) List.nodup_nil (List.forall_mem_nil _)

theorem Store.WellFormed.write {store next : Store} (wellFormed : store.WellFormed)
    {path : String} {file : File} (writes : store.write path file = .ok next) :
    next.WellFormed := by
  obtain ⟨⟨parent, name⟩, found, writes⟩ := bind_eq_ok_iff.mp writes
  have ⟨outer, isSegment⟩ := wellFormed.parentLocation found
  cases name with
  | none => cases writes
  | some last =>
      simp only at writes
      split at writes
      · cases writes
      · obtain ⟨location, steps, writes⟩ := bind_eq_ok_iff.mp writes
        split at writes
        · cases writes
        · cases writes
          refine wellFormed.put (outer.step (isSegment last rfl) steps) ?_
          rintro entry ⟨⟩
          exact .file file

theorem Store.WellFormed.remove {store next : Store} (wellFormed : store.WellFormed)
    {path : String} (removes : store.remove path = .ok next) : next.WellFormed := by
  obtain ⟨location, found, removes⟩ := bind_eq_ok_iff.mp removes
  split at removes
  · cases removes
  · cases removes
  · cases removes
    exact wellFormed.put (wellFormed.location found) nofun

/-! ## Changes that may fail halfway -/

theorem Store.WellFormed.ensureDirectory {store : Store} (wellFormed : store.WellFormed)
    (path : String) : (store.ensureDirectory path).2.WellFormed := by
  unfold Store.ensureDirectory
  split
  · exact wellFormed.createDirectory ‹_›
  · exact wellFormed

theorem Store.WellFormed.createFrom {store : Store} (wellFormed : store.WellFormed)
    (paths : List String) : (store.createFrom paths).2.WellFormed := by
  induction paths with
  | nil => exact wellFormed
  | cons path above ih =>
      rw [Store.createFrom]
      -- Only where nothing is found does the store change before the directory itself is made.
      split
      · split
        · rename_i made
          rw [made] at ih
          exact ih.ensureDirectory path
        · rename_i made
          rw [made] at ih
          exact ih
      · exact wellFormed.ensureDirectory path

theorem Store.WellFormed.createDirectories {store : Store} (wellFormed : store.WellFormed)
    (path : String) : (store.createDirectories path).2.WellFormed := by
  unfold Store.createDirectories
  split
  · exact wellFormed
  · exact wellFormed.createFrom _

theorem Store.WellFormed.writeWithParents {store : Store} (wellFormed : store.WellFormed)
    (path : String) (file : File) : (store.writeWithParents path file).2.WellFormed := by
  have outer : (store.createParents path).2.WellFormed := wellFormed.createFrom _
  unfold Store.writeWithParents
  split
  · rename_i made
    rwa [made] at outer
  · rename_i made
    rw [made] at outer
    split
    · exact outer.write ‹_›
    · exact outer

/-! ## Sequences of changes -/

inductive Change where
  | write (path : String) (file : File)
  | createDirectories (path : String)
  | remove (path : String)

/-- The store after a change, whether it failed or not. -/
def Store.change (store : Store) : Change → Store
  | .write path file => (store.writeWithParents path file).2
  | .createDirectories path => (store.createDirectories path).2
  | .remove path => (store.remove path).toOption.getD store

theorem Store.WellFormed.change {store : Store} (wellFormed : store.WellFormed) (change : Change) :
    (store.change change).WellFormed := by
  cases change with
  | write path file => exact wellFormed.writeWithParents path file
  | createDirectories path => exact wellFormed.createDirectories path
  | remove path =>
      rw [Store.change]
      cases removed : store.remove path with
      | error fault => exact wellFormed
      | ok next => exact wellFormed.remove removed

theorem Store.WellFormed.changes {store : Store} (wellFormed : store.WellFormed)
    (changes : List Change) : (changes.foldl Store.change store).WellFormed := by
  induction changes generalizing store with
  | nil => exact wellFormed
  | cons change changes ih => exact ih (wellFormed.change change)

theorem wellFormed_empty : Store.WellFormed {} :=
  ⟨.directory (List.forall_mem_nil _) List.nodup_nil (List.forall_mem_nil _), List.forall_mem_nil _⟩

end SharpLint.Files
