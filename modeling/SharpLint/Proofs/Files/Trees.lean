import SharpLint.Proofs.Files.Paths

/-!
# Well-formed trees of files

In a well-formed tree every entry has a name that can be told from those beside it. Looking up a
path in a well-formed store leads to a well-formed tree (`Store.WellFormed.entry`), so that what is
shown of trees holds at every path.
-/

namespace SharpLint.Files

/-- Every entry has a proper name, which no other entry of its directory has. -/
inductive Entry.WellFormed : Entry → Prop where
  | file (contents : File) : WellFormed (.file contents)
  | directory {entries : List (String × Entry)}
      (areNames : ∀ item ∈ entries, IsName item.1)
      (distinct : (entries.map (·.1)).Nodup)
      (below : ∀ item ∈ entries, item.2.WellFormed) : WellFormed (.directory entries)

def Entry.at? : List String → Entry → Option Entry
  | [], entry => some entry
  | name :: names, entry => (entry.child? name).bind (Entry.at? names)

theorem Entry.child?_directory_iff {entries : List (String × Entry)}
    (distinct : (entries.map (·.1)).Nodup) {name : String} {entry : Entry} :
    (Entry.directory entries).child? name = some entry ↔ (name, entry) ∈ entries := by
  rw [Entry.child?]
  induction entries with
  | nil => simp
  | cons item entries ih =>
      rw [List.map_cons, List.nodup_cons] at distinct
      obtain ⟨first, here⟩ := item
      by_cases same : name = first
      · have onlyHere : (name, entry) ∉ entries := fun member =>
          distinct.1 (List.mem_map.mpr ⟨_, member, same⟩)
        simp [same ▸ onlyHere, same, eq_comm]
      · rw [List.lookup_cons, beq_false_of_ne same, ih distinct.2]
        simp [same]

theorem Entry.WellFormed.child {entry child : Entry} (wellFormed : entry.WellFormed) {name : String}
    (found : entry.child? name = some child) : IsName name ∧ child.WellFormed := by
  cases wellFormed with
  | file contents => cases found
  | directory areNames distinct below =>
      have member := (Entry.child?_directory_iff distinct).mp found
      exact ⟨areNames _ member, below _ member⟩

theorem Entry.WellFormed.isName_of_at? {names : List String} {entry there : Entry}
    (wellFormed : entry.WellFormed) (leads : entry.at? names = some there) :
    ∀ name ∈ names, IsName name := by
  induction names generalizing entry with
  | nil => exact List.forall_mem_nil _
  | cons name names ih =>
      obtain ⟨child, found, leads⟩ := Option.bind_eq_some_iff.mp leads
      have next := wellFormed.child found
      exact List.forall_mem_cons.mpr ⟨next.1, ih next.2 leads⟩

/-! ## Locations -/

/-- A location in a well-formed tree: what is there and the directories that lead there are
well-formed, and the names are proper ones. -/
structure Location.WellFormed (location : Location) : Prop where
  here : ∀ entry, location.entry = some entry → entry.WellFormed
  names : ∀ item ∈ location.trail, IsName item.1
  above : ∀ item ∈ location.trail, item.2.WellFormed

/-- A part of a path: it may stand for the directory it is in or for the one above. -/
structure IsSegment (segment : String) : Prop where
  noSlash : '/' ∉ segment.toList
  noNull : '\x00' ∉ segment.toList

theorem IsName.isSegment {name : String} (isName : IsName name) : IsSegment name :=
  ⟨isName.noSlash, isName.noNull⟩

theorem Location.step_cases {location next : Location} {segment : String}
    (steps : location.step segment = .ok next) :
    next = location ∨
    (∃ name above trail, location.trail = (name, above) :: trail ∧
      next = { entry := some above, trail }) ∨
    (isHere segment = false ∧ segment ≠ ".." ∧ ∃ here, location.entry = some here ∧
      next = { entry := here.child? segment, trail := (segment, here) :: location.trail }) := by
  obtain ⟨-, -, steps⟩ := bind_eq_ok_iff.mp steps
  -- The length is checked in front of all cases, so a part that is too long fails in each of them.
  have fits : ¬ maxNameLength < segment.utf8ByteSize := by
    intro long
    simp only [if_pos long] at steps
    split at steps
    · cases steps
    · split at steps <;> cases steps
  simp only [if_neg fits] at steps
  split at steps
  · cases steps
    exact .inl rfl
  · rename_i notHere
    split at steps
    · cases trail : location.trail with
      | nil =>
          rw [trail] at steps
          cases steps
          exact .inl rfl
      | cons item trail' =>
          rw [trail] at steps
          cases steps
          exact .inr (.inl ⟨_, _, _, rfl, rfl⟩)
    · rename_i notAbove
      cases here : location.entry with
      | none =>
          rw [here] at steps
          cases steps
      | some entry =>
          rw [here] at steps
          cases steps
          exact .inr (.inr ⟨Bool.eq_false_iff.mpr notHere, notAbove, entry, rfl, rfl⟩)

theorem Location.WellFormed.step {location next : Location} (wellFormed : location.WellFormed)
    {segment : String} (isSegment : IsSegment segment)
    (steps : location.step segment = .ok next) : next.WellFormed := by
  obtain rfl | ⟨name, above, trail, up, rfl⟩ | ⟨notHere, notAbove, here, down, rfl⟩ :=
    Location.step_cases steps
  · exact wellFormed
  · obtain ⟨-, names, entries⟩ := wellFormed
    rw [up, List.forall_mem_cons] at names entries
    exact ⟨by rintro entry ⟨⟩; exact entries.1, names.2, entries.2⟩
  · have outer := wellFormed.here here down
    refine ⟨fun entry found => (outer.child found).2, ?_, ?_⟩
    · exact List.forall_mem_cons.mpr
        ⟨⟨isSegment.noSlash, isSegment.noNull, notHere, notAbove⟩, wellFormed.names⟩
    · exact List.forall_mem_cons.mpr ⟨outer, wellFormed.above⟩

theorem Location.WellFormed.walk {location last : Location} (wellFormed : location.WellFormed)
    {segments : List String} (areSegments : ∀ segment ∈ segments, IsSegment segment)
    (walks : location.walk segments = .ok last) : last.WellFormed := by
  induction segments generalizing location with
  | nil =>
      cases walks
      exact wellFormed
  | cons segment segments ih =>
      rw [List.forall_mem_cons] at areSegments
      rw [Location.walk, List.foldlM_cons] at walks
      obtain ⟨next, steps, walks⟩ := bind_eq_ok_iff.mp walks
      exact ih (wellFormed.step areSegments.1 steps) areSegments.2 walks

/-! ## Stores -/

/-- A store of a well-formed tree, with proper names leading to the working directory. -/
structure Store.WellFormed (store : Store) : Prop where
  top : store.top.WellFormed
  workingDirectory : ∀ name ∈ store.workingDirectory, IsName name

theorem isSegment_of_mem_segments {path : String} (isPath : IsPath path) {segment : String}
    (member : segment ∈ segments path) : IsSegment segment := by
  obtain ⟨part, among, rfl⟩ := List.mem_map.mp member
  obtain ⟨noSlash, fromPath⟩ := of_mem_splitAtSlashes among
  refine ⟨?_, fun null => isPath.2 (fromPath ?_)⟩
  · rwa [String.toList_ofList]
  · rwa [String.toList_ofList] at null

theorem Store.WellFormed.location_top {store : Store} (wellFormed : store.WellFormed) :
    Location.WellFormed { entry := some store.top } :=
  ⟨by rintro entry ⟨⟩; exact wellFormed.top, List.forall_mem_nil _, List.forall_mem_nil _⟩

theorem Store.WellFormed.walk {store : Store} (wellFormed : store.WellFormed) {path : String}
    {segments : List String} (areSegments : ∀ segment ∈ segments, IsSegment segment)
    {location : Location} (walks : store.walk path segments = .ok location) :
    location.WellFormed := by
  refine wellFormed.location_top.walk ?_ walks
  intro segment member
  rcases List.mem_append.mp member with member | member
  · split at member
    · cases member
    · exact (wellFormed.workingDirectory segment member).isSegment
  · exact areSegments segment member

theorem Store.WellFormed.location {store : Store} (wellFormed : store.WellFormed) {path : String}
    {location : Location} (found : store.location path = .ok location) : location.WellFormed := by
  obtain ⟨⟨⟩, checked, walks⟩ := bind_eq_ok_iff.mp found
  exact wellFormed.walk (fun _ => isSegment_of_mem_segments (isPath_of_checkPath checked)) walks

theorem Store.location_of_entry {store : Store} {path : String} {entry : Entry}
    (found : store.entry path = .ok entry) :
    ∃ location, store.location path = .ok location ∧ location.entry = some entry := by
  obtain ⟨location, leads, found⟩ := bind_eq_ok_iff.mp found
  split at found
  · cases found
    exact ⟨location, leads, ‹_›⟩
  · cases found

theorem Store.WellFormed.entry {store : Store} (wellFormed : store.WellFormed) {path : String}
    {entry : Entry} (found : store.entry path = .ok entry) : entry.WellFormed := by
  obtain ⟨location, leads, here⟩ := Store.location_of_entry found
  exact (wellFormed.location leads).here entry here

end SharpLint.Files
