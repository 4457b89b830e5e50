import Mathlib.Data.List.Sort
import Mathlib.Data.String.Basic
import SharpLint.Proofs.Files.Changes

/-!
# What scans find

A walk meets an entry if and only if the names that lead to it pass through scanned directories
(`mem_visits_iff`), and it meets them in the order of their names (`visits_inOrder`). A scan that
can open all these directories keeps the files that are sources, and one that cannot breaks off
(`collect_cases`). So the scan of a directory finds the eligible files, each once and in the order
of their paths, unless the path of a directory is too long.
-/

namespace SharpLint.Files

/-! ## Walks -/

theorem visitsByName_eq_map (entries : List (String × Entry)) :
    visitsByName entries = entries.map fun item =>
      (item.1, if isMet item.1 item.2 then (visits item.2).map (Visit.under item.1) else []) := by
  induction entries with
  | nil => rw [visitsByName, List.map_nil]
  | cons item entries ih => rw [visitsByName, List.map_cons, ih]

theorem mem_visits_file {contents : File} {visit : Visit} :
    visit ∈ visits (.file contents) ↔ visit = ⟨[], false⟩ := by
  rw [visits, List.mem_singleton]

theorem mem_visits_directory {entries : List (String × Entry)} {visit : Visit} :
    visit ∈ visits (.directory entries) ↔
      visit = ⟨[], true⟩ ∨
      ∃ item ∈ entries, isMet item.1 item.2 = true ∧ ∃ inner ∈ visits item.2,
        inner.under item.1 = visit := by
  rw [visits, List.mem_cons, List.mem_flatMap]
  refine or_congr_right ?_
  simp only [(List.mergeSort_perm _ _).mem_iff, visitsByName_eq_map, List.mem_map]
  constructor
  · rintro ⟨_, ⟨item, member, rfl⟩, among⟩
    split at among
    · exact ⟨item, member, ‹_›, List.mem_map.mp among⟩
    · cases among
  · rintro ⟨item, member, met, among⟩
    exact ⟨_, ⟨item, member, rfl⟩, by rw [if_pos met]; exact List.mem_map.mpr among⟩

def Visit.opened (visit : Visit) : List String :=
  if visit.isDirectory then visit.names else visit.names.dropLast

/-- The names of the visit lead from the start to an entry of its kind, through directories that are
scanned. -/
structure Visit.Meets (start : Entry) (visit : Visit) : Prop where
  leads : ∃ entry, start.at? visit.names = some entry ∧ entry.isDirectory = visit.isDirectory
  scanned : ∀ name ∈ visit.opened, isScanned name = true

theorem Entry.isDirectory_of_child? {entry child : Entry} {name : String}
    (found : entry.child? name = some child) : entry.isDirectory = true := by
  cases entry with
  | file contents => cases found
  | directory entries => rfl

theorem Visit.forall_opened_under {entry : Entry} {visit : Visit} (name : String)
    (leads : ∃ there, entry.at? visit.names = some there ∧
      there.isDirectory = visit.isDirectory) :
    (∀ above ∈ (visit.under name).opened, isScanned above = true) ↔
      isMet name entry = true ∧ ∀ above ∈ visit.opened, isScanned above = true := by
  obtain ⟨there, leads, kind⟩ := leads
  obtain ⟨names, isDirectory⟩ := visit
  cases names with
  | nil =>
      -- The visit is at the entry itself, which is opened only if it is a directory.
      cases leads
      cases isDirectory <;> simp [Visit.opened, Visit.under, isMet, kind]
  | cons first names =>
      obtain ⟨child, below, -⟩ := Option.bind_eq_some_iff.mp leads
      have directory := Entry.isDirectory_of_child? below
      cases isDirectory <;> simp [Visit.opened, Visit.under, isMet, directory]

theorem Visit.meets_under {start entry : Entry} {name : String}
    (found : start.child? name = some entry) {visit : Visit} :
    (visit.under name).Meets start ↔ isMet name entry = true ∧ visit.Meets entry := by
  have step : start.at? (visit.under name).names = entry.at? visit.names := by
    rw [Visit.under, Entry.at?, found, Option.bind_some]
  constructor
  · rintro ⟨leads, scanned⟩
    rw [step] at leads
    have above := (Visit.forall_opened_under name leads).mp scanned
    exact ⟨above.1, leads, above.2⟩
  · rintro ⟨met, leads, scanned⟩
    exact ⟨by rwa [step], (Visit.forall_opened_under name leads).mpr ⟨met, scanned⟩⟩

theorem mem_visits_iff {entry : Entry} (wellFormed : entry.WellFormed) {visit : Visit} :
    visit ∈ visits entry ↔ visit.Meets entry := by
  -- The tree decides what the first name of a visit can be, and the hypothesis what follows it.
  induction wellFormed generalizing visit with
  | file contents =>
      rw [mem_visits_file]
      constructor
      · rintro rfl
        exact ⟨⟨_, rfl, rfl⟩, List.forall_mem_nil _⟩
      · rintro ⟨⟨there, leads, kind⟩, -⟩
        obtain ⟨names, isDirectory⟩ := visit
        cases names with
        | nil =>
            cases leads
            cases kind
            rfl
        | cons name names => cases leads
  | directory areNames distinct below ih =>
      rw [mem_visits_directory]
      constructor
      · rintro (rfl | ⟨item, member, met, inner, among, rfl⟩)
        · exact ⟨⟨_, rfl, rfl⟩, List.forall_mem_nil _⟩
        · rw [Visit.meets_under ((Entry.child?_directory_iff distinct).mpr member)]
          exact ⟨met, (ih item member).mp among⟩
      · intro meets
        obtain ⟨names, isDirectory⟩ := visit
        cases names with
        | nil =>
            obtain ⟨there, leads, kind⟩ := meets.leads
            cases leads
            cases kind
            exact .inl rfl
        | cons name names =>
            obtain ⟨there, leads, -⟩ := meets.leads
            obtain ⟨child, found, -⟩ := Option.bind_eq_some_iff.mp leads
            have member := (Entry.child?_directory_iff distinct).mp found
            change (Visit.under name ⟨names, isDirectory⟩).Meets _ at meets
            rw [Visit.meets_under found] at meets
            exact .inr ⟨_, member, meets.1, _, (ih _ member).mpr meets.2, rfl⟩

/-! ## Order -/

theorem namesInOrder_iff {α : Type} {a b : String × α} : namesInOrder a b = true ↔ a.1 ≤ b.1 := by
  rw [namesInOrder, decide_eq_true_iff]

theorem mergeSort_names_lt {α : Type} {items : List (String × α)}
    (distinct : (items.map (·.1)).Nodup) :
    (items.mergeSort namesInOrder).Pairwise (fun a b => a.1 < b.1) := by
  have sorted : (items.mergeSort namesInOrder).Pairwise (fun a b => namesInOrder a b = true) := by
    apply List.pairwise_mergeSort
    · intro a b c first second
      rw [namesInOrder_iff] at *
      exact le_trans first second
    · intro a b
      rw [Bool.or_eq_true, namesInOrder_iff, namesInOrder_iff]
      exact le_total a.1 b.1
  have different : ((items.mergeSort namesInOrder).map (·.1)).Nodup :=
    ((List.mergeSort_perm items namesInOrder).map _).nodup_iff.mpr distinct
  rw [List.nodup_iff_pairwise_ne, List.pairwise_map] at different
  exact sorted.imp₂ (fun a b ordered unequal =>
    lt_of_le_of_ne (namesInOrder_iff.mp ordered) unequal) different

theorem names_of_mem_visitsByName {entries : List (String × Entry)} {item : String × List Visit}
    (member : item ∈ visitsByName entries) {visit : Visit} (among : visit ∈ item.2) :
    ∃ names, visit.names = item.1 :: names := by
  rw [visitsByName_eq_map] at member
  obtain ⟨_, -, rfl⟩ := List.mem_map.mp member
  dsimp only at among
  split at among
  · obtain ⟨inner, -, rfl⟩ := List.mem_map.mp among
    exact ⟨inner.names, rfl⟩
  · cases among

theorem visits_inOrder {entry : Entry} (wellFormed : entry.WellFormed) :
    (visits entry).Pairwise (fun a b => a.names < b.names) := by
  induction wellFormed with
  | file contents => exact List.pairwise_singleton _ _
  | @directory entries areNames distinct below ih =>
      -- The directory itself is first, what is met at one entry is in order by induction, and
      -- between two entries their own names decide.
      rw [visits, List.pairwise_cons, List.pairwise_flatMap]
      have byName : ∀ item ∈ (visitsByName entries).mergeSort namesInOrder,
          item ∈ visitsByName entries := fun item =>
        (List.mergeSort_perm _ _).mem_iff.mp
      refine ⟨?_, ?_, ?_⟩
      · intro visit member
        obtain ⟨item, sorted, among⟩ := List.mem_flatMap.mp member
        obtain ⟨names, starts⟩ := names_of_mem_visitsByName (byName item sorted) among
        rw [starts]
        exact List.nil_lt_cons _ _
      · intro item sorted
        have member := byName item sorted
        rw [visitsByName_eq_map] at member
        obtain ⟨item, entry, rfl⟩ := List.mem_map.mp member
        dsimp only
        split
        · rw [List.pairwise_map]
          exact (ih item entry).imp fun {a b} before =>
            List.cons_lt_cons_iff.mpr (.inr ⟨rfl, before⟩)
        · exact List.Pairwise.nil
      · have increasing : ((visitsByName entries).mergeSort namesInOrder).Pairwise
            (fun a b => a.1 < b.1) := by
          apply mergeSort_names_lt
          rw [visitsByName_eq_map, List.map_map]
          exact distinct
        refine increasing.imp_of_mem ?_
        intro a b memberA memberB before x amongA y amongB
        obtain ⟨namesA, startsA⟩ := names_of_mem_visitsByName (byName a memberA) amongA
        obtain ⟨namesB, startsB⟩ := names_of_mem_visitsByName (byName b memberB) amongB
        rw [startsA, startsB]
        exact List.cons_lt_cons_iff.mpr (.inl before)

/-! ## Sources -/

theorem isSourceName_iff {name : String} :
    isSourceName name = true ↔ ∃ stem, stem ≠ "" ∧ name = stem ++ ".cs" := by
  have ending : ".cs".toList = ['.', 'c', 's'] := rfl
  have extension : isSourceName name = true ↔ extension? name = some "cs" := by
    simp [isSourceName, sourceExtensions, Option.any_eq_true]
  rw [extension, extension?]
  constructor
  · intro found
    split at found
    · cases found
    · rename_i long
      rw [Option.some_inj, ← String.toList_inj, String.toList_ofList] at found
      have whole : name.toList =
          (name.toList.reverse.dropWhile (· != '.')).reverse ++ "cs".toList := by
        rw [← found, ← List.reverse_append, List.takeWhile_append_dropWhile, List.reverse_reverse]
      rw [found] at long
      cases rest : name.toList.reverse.dropWhile (· != '.') with
      | nil =>
          rw [whole, rest] at long
          exact absurd (by simp) long
      | cons dot stem =>
          have isDot : dot = '.' := by
            have stopped := List.head_dropWhile_not (· != '.') (rest ▸ List.cons_ne_nil dot stem)
            simpa [rest] using stopped
          rw [rest, isDot] at whole
          refine ⟨String.ofList stem.reverse, ?_, ?_⟩
          · rintro empty
            have nothing : stem = [] := by simpa using empty
            rw [whole, nothing] at long
            exact long (by simp)
          · rw [← String.toList_inj, whole, String.toList_append, String.toList_ofList, ending]
            simp
  · rintro ⟨stem, nonempty, rfl⟩
    have some : stem.toList ≠ [] := mt String.toList_eq_nil_iff.mp nonempty
    simp [ending, some]

theorem excludes_eq_false_iff {config : Config} {path : String} :
    config.excludes path = false ↔
      ∀ pattern ∈ config.excludedPaths, ∀ parts, Glob.parse pattern = .ok parts →
        Glob.isMatch parts path = false := by
  rw [Config.excludes, List.any_eq_false]
  refine forall₂_congr fun pattern member => ?_
  cases Glob.parse pattern with
  | error error => simp
  | ok parts => simp

def sourceNames (config : Config) (met : List Visit) : List (List String) :=
  (met.filter fun visit => !visit.isDirectory && isSource config visit.names).map (·.names)

theorem collect_cases (config : Config) (path : String) (met : List Visit) :
    (∃ visit ∈ met, visit.isDirectory = true ∧ ∃ fault,
      checkPath (joinAll path visit.names) = .error fault ∧
      collect config path met = .error ⟨joinAll path visit.names, fault⟩) ∨
    ((∀ visit ∈ met, visit.isDirectory = true → checkPath (joinAll path visit.names) = .ok ()) ∧
      collect config path met = .ok (sourceNames config met)) := by
  -- The first directory that cannot be opened decides; files leave the outcome open.
  induction met with
  | nil => exact .inr ⟨List.forall_mem_nil _, rfl⟩
  | cons visit met ih =>
      rw [collect]
      by_cases directory : visit.isDirectory = true
      · rw [if_pos directory]
        cases checked : checkPath (joinAll path visit.names) with
        | error fault => exact .inl ⟨visit, List.mem_cons_self, directory, fault, checked, rfl⟩
        | ok =>
            rcases ih with ⟨failing, member, fails⟩ | ⟨opens, found⟩
            · exact .inl ⟨failing, List.mem_cons_of_mem visit member, fails⟩
            · refine .inr ⟨List.forall_mem_cons.mpr ⟨fun _ => checked, opens⟩, ?_⟩
              simp [found, directory, sourceNames]
      · rw [if_neg directory]
        rcases ih with ⟨failing, member, isDirectory, fault, checked, fails⟩ | ⟨opens, found⟩
        · refine .inl ⟨failing, List.mem_cons_of_mem visit member, isDirectory, fault, checked, ?_⟩
          split <;> simp [fails, Except.map]
        · refine .inr ⟨List.forall_mem_cons.mpr ⟨fun met => absurd met directory, opens⟩, ?_⟩
          split <;> simp_all [Except.map, sourceNames]

/-! ## Scanning a directory -/

/-- A directory of this name is passed over: it is hidden, or tools fill it. -/
def IsPassedOver (name : String) : Prop :=
  (∃ rest, name = "." ++ rest) ∨ name ∈ ["bin", "obj", "packages", "node_modules"]

/-- The names lead to a directory that a scan has to open. -/
structure IsOpened (root : Entry) (names : List String) : Prop where
  isDirectory : ∃ entries, root.at? names = some (.directory entries)
  isReached : ∀ name ∈ names, ¬ IsPassedOver name

/-- The names lead to a file that a scan has to find. -/
structure IsEligible (config : Config) (root : Entry) (names : List String) : Prop where
  isFile : ∃ contents, root.at? names = some (.file contents)
  isReached : ∀ name ∈ names.dropLast, ¬ IsPassedOver name
  isSource : ∃ stem, stem ≠ "" ∧ names.getLast? = some (stem ++ ".cs")
  isKept : ∀ pattern ∈ config.excludedPaths, ∀ parts, Glob.parse pattern = .ok parts →
    Glob.isMatch parts (joinNames names) = false

theorem isScanned_iff {name : String} : isScanned name = true ↔ ¬ IsPassedOver name := by
  have hidden : name.toList.head? = some '.' ↔ ∃ rest, name = "." ++ rest := by
    constructor
    · intro starts
      have dot : ".".toList = ['.'] := rfl
      refine ⟨String.ofList name.toList.tail, ?_⟩
      rw [← String.toList_inj, String.toList_append, dot, String.toList_ofList]
      exact (List.cons_head?_tail starts).symm
    · rintro ⟨rest, rfl⟩
      rw [String.toList_append]
      rfl
  rw [isScanned, Bool.and_eq_true, decide_eq_true_iff, decide_eq_true_iff, Ne, hidden,
    IsPassedOver, not_or]
  rfl

instance (name : String) : Decidable (IsPassedOver name) :=
  decidable_of_iff (¬ isScanned name = true) (by rw [isScanned_iff, Classical.not_not])

theorem isSource_iff {config : Config} {names : List String} :
    isSource config names = true ↔
      (∃ stem, stem ≠ "" ∧ names.getLast? = some (stem ++ ".cs")) ∧
      ∀ pattern ∈ config.excludedPaths, ∀ parts, Glob.parse pattern = .ok parts →
        Glob.isMatch parts (joinNames names) = false := by
  rw [isSource, Bool.and_eq_true, Bool.not_eq_true', excludes_eq_false_iff, Option.any_eq_true]
  simp only [isSourceName_iff]
  refine and_congr_left fun _ => ?_
  constructor
  · rintro ⟨_, last, stem, nonempty, rfl⟩
    exact ⟨stem, nonempty, last⟩
  · rintro ⟨stem, nonempty, last⟩
    exact ⟨_, last, stem, nonempty, rfl⟩

theorem directory_mem_visits_iff {root : Entry} (wellFormed : root.WellFormed)
    {names : List String} :
    ⟨names, true⟩ ∈ visits root ↔ IsOpened root names := by
  rw [mem_visits_iff wellFormed]
  constructor
  · rintro ⟨⟨entry, leads, directory⟩, scanned⟩
    cases entry with
    | file contents => cases directory
    | directory entries =>
        exact ⟨⟨entries, leads⟩, fun name member => isScanned_iff.mp (scanned name member)⟩
  · rintro ⟨⟨entries, leads⟩, reached⟩
    exact ⟨⟨_, leads, rfl⟩, fun name member => isScanned_iff.mpr (reached name member)⟩

theorem source_mem_visits_iff {root : Entry} (wellFormed : root.WellFormed) {config : Config}
    {names : List String} :
    (⟨names, false⟩ ∈ visits root ∧ isSource config names = true) ↔
      IsEligible config root names := by
  rw [mem_visits_iff wellFormed, isSource_iff]
  constructor
  · rintro ⟨⟨⟨entry, leads, directory⟩, scanned⟩, source, kept⟩
    cases entry with
    | file contents =>
        exact ⟨⟨contents, leads⟩, fun name member => isScanned_iff.mp (scanned name member), source,
          kept⟩
    | directory entries => cases directory
  · rintro ⟨⟨contents, leads⟩, reached, source, kept⟩
    have scanned : ∀ name ∈ names.dropLast, isScanned name = true := fun name member =>
      isScanned_iff.mpr (reached name member)
    exact ⟨⟨⟨_, leads, rfl⟩, scanned⟩, source, kept⟩

theorem mem_sourceNames_iff {root : Entry} (wellFormed : root.WellFormed) {config : Config}
    {names : List String} :
    names ∈ sourceNames config (visits root) ↔ IsEligible config root names := by
  rw [← source_mem_visits_iff wellFormed, sourceNames, List.mem_map]
  constructor
  · rintro ⟨⟨_, isDirectory⟩, member, rfl⟩
    rw [List.mem_filter, Bool.and_eq_true, Bool.not_eq_true'] at member
    obtain ⟨met, rfl, source⟩ := member
    exact ⟨met, source⟩
  · rintro ⟨met, source⟩
    exact ⟨_, List.mem_filter.mpr ⟨met, by simpa using source⟩, rfl⟩

theorem sourceNames_inOrder {root : Entry} (wellFormed : root.WellFormed) (config : Config) :
    (sourceNames config (visits root)).Pairwise (· < ·) := by
  rw [sourceNames, List.pairwise_map]
  exact (visits_inOrder wellFormed).filter _

theorem IsOpened.checkPath_joinAll {root : Entry} (wellFormed : root.WellFormed) {path : String}
    (isPath : IsPath path) {names : List String} (opened : IsOpened root names) :
    checkPath (joinAll path names) =
      if maxPathLength < (joinAll path names).utf8ByteSize then .error .nameTooLong
      else .ok () := by
  obtain ⟨entries, leads⟩ := opened.isDirectory
  exact checkPath_of_isPath (isPath_joinAll isPath (wellFormed.isName_of_at? leads))

theorem Store.sources_of_directory {store : Store} {path : String} {entries : List (String × Entry)}
    (isDirectory : store.entry path = .ok (.directory entries)) (config : Config) :
    store.sources config path =
      (collect config path (visits (.directory entries))).map (List.map (joinAll path)) := by
  rw [Store.sources, isDirectory]
  rfl

section Directory

variable {store : Store} (wellFormed : store.WellFormed) (config : Config) {path : String}
  {entries : List (String × Entry)} (isDirectory : store.entry path = .ok (.directory entries))

include wellFormed isDirectory

theorem sources_of_short
    (short : ∀ names, IsOpened (.directory entries) names →
      (joinAll path names).utf8ByteSize ≤ maxPathLength) :
    ∃ paths, store.sources config path = .ok paths ∧
      (∀ file, file ∈ paths ↔ ∃ names, IsEligible config (.directory entries) names ∧
        file = joinAll path names ∧ components file = components path ++ names) ∧
      paths.Pairwise (components · < components ·) := by
  have tree := wellFormed.entry isDirectory
  have parts : ∀ names, IsEligible config (.directory entries) names →
      components (joinAll path names) = components path ++ names := by
    intro names eligible
    obtain ⟨contents, leads⟩ := eligible.isFile
    exact components_joinAll path (tree.isName_of_at? leads)
  rcases collect_cases config path (visits (.directory entries)) with
    ⟨⟨names, _⟩, member, rfl, fault, checked, -⟩ | ⟨-, finds⟩
  · have opened := (directory_mem_visits_iff tree).mp member
    rw [opened.checkPath_joinAll tree (isPath_of_entry isDirectory),
      if_neg (Nat.not_lt.mpr (short names opened))] at checked
    cases checked
  · refine ⟨(sourceNames config (visits (.directory entries))).map (joinAll path), ?_, ?_, ?_⟩
    · rw [Store.sources_of_directory isDirectory, finds]
      rfl
    · intro file
      rw [List.mem_map]
      constructor
      · rintro ⟨names, member, rfl⟩
        have eligible := (mem_sourceNames_iff tree).mp member
        exact ⟨names, eligible, rfl, parts names eligible⟩
      · rintro ⟨names, eligible, rfl, -⟩
        exact ⟨names, (mem_sourceNames_iff tree).mpr eligible, rfl⟩
    · rw [List.pairwise_map]
      refine (sourceNames_inOrder tree config).imp_of_mem ?_
      intro a b memberA memberB before
      rw [parts a ((mem_sourceNames_iff tree).mp memberA),
        parts b ((mem_sourceNames_iff tree).mp memberB)]
      exact List.append_left_lt before

theorem sources_of_long
    (long : ∃ names, IsOpened (.directory entries) names ∧
      maxPathLength < (joinAll path names).utf8ByteSize) :
    ∃ names, IsOpened (.directory entries) names ∧
      maxPathLength < (joinAll path names).utf8ByteSize ∧
      store.sources config path = .error ⟨joinAll path names, .nameTooLong⟩ := by
  have tree := wellFormed.entry isDirectory
  have isPath := isPath_of_entry isDirectory
  rcases collect_cases config path (visits (.directory entries)) with
    ⟨⟨names, _⟩, member, rfl, fault, checked, fails⟩ | ⟨opens, -⟩
  · have opened := (directory_mem_visits_iff tree).mp member
    rw [opened.checkPath_joinAll tree isPath] at checked
    split at checked
    · rename_i tooLong
      cases checked
      refine ⟨names, opened, tooLong, ?_⟩
      rw [Store.sources_of_directory isDirectory, fails]
      rfl
    · cases checked
  · obtain ⟨names, opened, tooLong⟩ := long
    have checked := opens _ ((directory_mem_visits_iff tree).mpr opened) rfl
    rw [opened.checkPath_joinAll tree isPath, if_pos tooLong] at checked
    cases checked

/-- The scan of a directory finds the eligible files under it and nothing else, each once and in the
order of the parts of their paths, if every directory that it has to open has a path that is not too
long. Otherwise it fails on such a directory. What the start of the scan is called plays no role. -/
theorem sources_exact :
    ((∀ names, IsOpened (.directory entries) names →
        (joinAll path names).utf8ByteSize ≤ maxPathLength) →
      ∃ paths, store.sources config path = .ok paths ∧
        (∀ file, file ∈ paths ↔ ∃ names, IsEligible config (.directory entries) names ∧
          file = joinAll path names ∧ components file = components path ++ names) ∧
        paths.Pairwise (components · < components ·)) ∧
    ((∃ names, IsOpened (.directory entries) names ∧
        maxPathLength < (joinAll path names).utf8ByteSize) →
      ∃ names, IsOpened (.directory entries) names ∧
        maxPathLength < (joinAll path names).utf8ByteSize ∧
        store.sources config path = .error ⟨joinAll path names, .nameTooLong⟩) :=
  ⟨sources_of_short wellFormed config isDirectory, sources_of_long wellFormed config isDirectory⟩

end Directory

namespace Sample

def blank : File := .text { source := { text := "" } }

def project : Store :=
  [.write "src.cs" blank, .write "src/A.cs" blank, .write "bin/B.cs" blank].foldl Store.change {}

theorem top_project : project.top = .directory
    [("src.cs", .file blank), ("src", .directory [("A.cs", .file blank)]),
     ("bin", .directory [("B.cs", .file blank)])] := by
  rfl

theorem wellFormed_project : project.WellFormed := wellFormed_empty.changes _

end Sample

open Files.Sample in
theorem sources_exact_project :
    ∃ paths, project.sources {} "." = .ok paths ∧
      paths.Pairwise (components · < components ·) ∧
      "./src/A.cs" ∈ paths ∧ "./bin/B.cs" ∉ paths := by
  have start : project.entry "." = .ok project.top := rfl
  have short : ∀ names, IsOpened project.top names →
      (joinAll "." names).utf8ByteSize ≤ maxPathLength := by
    intro names opened
    have met := (directory_mem_visits_iff wellFormed_project.top).mpr opened
    simp only [top_project, mem_visits_directory, mem_visits_file, Visit.mk.injEq, Visit.under,
      List.mem_cons, List.not_mem_nil, or_false, false_or, and_true, true_and, and_false,
      exists_eq_or_imp, exists_eq_left, Bool.false_eq_true, ↓existsAndEq] at met
    rcases met with rfl | ⟨-, rfl⟩ | ⟨-, rfl⟩ <;> decide
  obtain ⟨paths, scan, members, ordered⟩ :=
    (sources_exact wellFormed_project {} start).1 short
  refine ⟨paths, scan, ordered, (members _).mpr ⟨["src", "A.cs"], ?_, by decide, by decide⟩, ?_⟩
  · exact ⟨⟨_, rfl⟩, by decide, ⟨"A", by decide, rfl⟩, List.forall_mem_nil _⟩
  · intro member
    obtain ⟨names, eligible, -, parts⟩ := (members _).mp member
    have inTools : ["bin", "B.cs"] = names := parts
    subst inTools
    exact eligible.isReached "bin" (by decide) (by decide)

/-! ## A tree that is too deep -/

namespace Sample

def letters (length : Nat) : String := String.ofList (List.replicate length 'd')

def nested : Nat → List (String × Entry)
  | 0 => []
  | depth + 1 => [(letters maxNameLength, .directory (nested depth))]

/-- A source beside directories in which the paths get too long. -/
def deep : Store where
  top := .directory (("a.cs", .file blank) :: nested 16)

theorem utf8ByteSize_letters (length : Nat) : (letters length).utf8ByteSize = length := by
  rw [letters]
  induction length with
  | zero => rfl
  | succ length ih =>
      have one : (String.singleton 'd').utf8ByteSize = 1 := rfl
      rw [List.replicate_succ, String.ofList_cons, String.utf8ByteSize_append, one, ih,
        Nat.add_comm]

theorem letters_ne {name : String} (short : name.utf8ByteSize ≠ maxNameLength) :
    letters maxNameLength ≠ name := by
  rintro rfl
  exact short (utf8ByteSize_letters maxNameLength)

theorem eq_of_mem_letters {c : Char} {length : Nat} (member : c ∈ (letters length).toList) :
    c = 'd' := by
  rw [letters, String.toList_ofList] at member
  exact List.eq_of_mem_replicate member

theorem isName_letters : IsName (letters maxNameLength) := by
  have notEmpty : letters maxNameLength ≠ "" := letters_ne (by decide)
  have notDot : letters maxNameLength ≠ "." := letters_ne (by decide)
  refine ⟨fun slash => ?_, fun null => ?_, ?_, letters_ne (by decide)⟩
  · exact absurd (eq_of_mem_letters slash) (by decide)
  · exact absurd (eq_of_mem_letters null) (by decide)
  · simp [isHere, notEmpty, notDot]

theorem wellFormed_nested (depth : Nat) : (Entry.directory (nested depth)).WellFormed := by
  induction depth with
  | zero => exact .directory (List.forall_mem_nil _) List.nodup_nil (List.forall_mem_nil _)
  | succ depth ih =>
      refine .directory ?_ (List.nodup_singleton _) ?_
      · exact List.forall_mem_singleton.mpr isName_letters
      · exact List.forall_mem_singleton.mpr ih

theorem at?_nested (depth : Nat) :
    (Entry.directory (nested depth)).at? (List.replicate depth (letters maxNameLength)) =
      some (.directory []) := by
  induction depth with
  | zero => rfl
  | succ depth ih =>
      have found : (Entry.directory (nested (depth + 1))).child? (letters maxNameLength) =
          some (.directory (nested depth)) := by
        rw [nested, Entry.child?, List.lookup_cons_self]
      rw [List.replicate_succ, Entry.at?, found, Option.bind_some, ih]

theorem wellFormed_deep : deep.WellFormed := by
  refine ⟨.directory ?_ ?_ ?_, List.forall_mem_nil _⟩
  · rw [nested, List.forall_mem_cons, List.forall_mem_singleton]
    exact ⟨by decide, isName_letters⟩
  · rw [nested]
    simp [(letters_ne (by decide) : letters maxNameLength ≠ "a.cs").symm]
  · rw [nested, List.forall_mem_cons, List.forall_mem_singleton]
    exact ⟨.file _, wellFormed_nested 15⟩

theorem isOpened_deep :
    IsOpened deep.top (List.replicate 16 (letters maxNameLength)) := by
  constructor
  · have other : (letters maxNameLength == "a.cs") = false :=
      beq_false_of_ne (letters_ne (by decide))
    refine ⟨[], ?_⟩
    rw [← at?_nested 16, deep, nested, List.replicate_succ, Entry.at?, Entry.at?, Entry.child?,
      Entry.child?, List.lookup_cons, other]
  · intro name member
    rw [List.eq_of_mem_replicate member]
    rintro (⟨rest, hidden⟩ | tool)
    · have dot : '.' ∈ (letters maxNameLength).toList := by
        rw [hidden, String.toList_append]
        exact List.mem_cons_self
      exact absurd (eq_of_mem_letters dot) (by decide)
    · simp only [List.mem_cons, List.not_mem_nil, or_false] at tool
      rcases tool with same | same | same | same <;> exact letters_ne (by decide) same

end Sample

open Files.Sample in
/-- Where a path gets too long, not even the sources beside it are found. -/
theorem deep_tree_breaks_off :
    deep.WellFormed ∧
    ∃ entries, deep.entry "." = .ok (.directory entries) ∧
      IsEligible {} (.directory entries) ["a.cs"] ∧
      ∀ paths, deep.sources {} "." ≠ .ok paths := by
  have start : deep.entry "." = .ok deep.top := rfl
  refine ⟨wellFormed_deep, _, start, ?_, ?_⟩
  · refine ⟨⟨_, rfl⟩, List.forall_mem_nil _, ⟨"a", by decide, rfl⟩, List.forall_mem_nil _⟩
  · intro paths finds
    have long : maxPathLength <
        (joinAll "." (List.replicate 16 (letters maxNameLength))).utf8ByteSize := by
      have one : ".".utf8ByteSize = 1 := rfl
      have bare : IsBare "." := by rfl
      rw [utf8ByteSize_joinAll_replicate bare isName_letters, utf8ByteSize_letters, one]
      decide
    obtain ⟨names, -, -, fails⟩ :=
      sources_of_long wellFormed_deep {} start ⟨_, isOpened_deep, long⟩
    rw [fails] at finds
    cases finds

end SharpLint.Files
