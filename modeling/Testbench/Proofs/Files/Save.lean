import Mathlib
import Testbench.Coverage.Storage
import Testbench.Files.Tree

/-!
Saving through a temporary file leaves the bytes at the path: making directories, writing a file
and moving it keep a sound tree sound, and reading the path gives the file moved onto it.
-/

namespace Testbench

namespace FileTree

variable {tree after : FileTree}

/-- The components name the root or a directory of the tree. -/
def IsDirectory (tree : FileTree) (components : List String) : Prop :=
  components = [] ∨ tree.get? components = some .directory

/-- Every entry lies below directories: each leading part of its components other than itself is
the root or a directory of the tree. -/
def Sound (tree : FileTree) : Prop :=
  ∀ entry ∈ tree.entries, ∀ count < entry.1.length, tree.IsDirectory (entry.1.take count)

/-- Every directory of one tree is a directory of the other. -/
def KeepsDirectories (tree after : FileTree) : Prop :=
  ∀ components, tree.get? components = some .directory → after.get? components = some .directory

theorem get?_nil (tree : FileTree) : tree.get? [] = some .directory := rfl

theorem get?_of_ne_nil {components : List String} (nonempty : components ≠ []) :
    tree.get? components = (tree.entries.find? (·.1 == components)).map (·.2) := by
  simp [get?, nonempty]

theorem mem_of_get? {components : List String} {node : FileNode} (nonempty : components ≠ [])
    (found : tree.get? components = some node) : (components, node) ∈ tree.entries := by
  rw [get?_of_ne_nil nonempty, Option.map_eq_some_iff] at found
  obtain ⟨entry, entryFound, rfl⟩ := found
  have named : entry.1 = components := by simpa using List.find?_some entryFound
  rw [← named]
  exact List.mem_of_find?_eq_some entryFound

theorem get?_set {components : List String} (nonempty : components ≠ []) (node : FileNode)
    (other : List String) :
    (tree.set components node).get? other = if other = components then some node else tree.get? other := by
  by_cases root : other = []
  · subst root
    rw [if_neg (Ne.symm nonempty)]
    rfl
  rw [get?_of_ne_nil root, get?_of_ne_nil root, set]
  split
  · rename_i present
    have sameTest : ((fun entry : List String × FileNode => entry.1 == other) ∘
        fun entry => if entry.1 == components then (components, node) else entry) = (·.1 == other) := by
      funext entry
      by_cases replaced : entry.1 = components <;> simp [replaced]
    rw [List.find?_map, sameTest, Option.map_map]
    cases found : tree.entries.find? (·.1 == other) with
    | none =>
      split
      · rename_i same
        subst same
        obtain ⟨entry, member, named⟩ := List.any_eq_true.mp present
        have isSome : (tree.entries.find? (·.1 == other)).isSome := List.find?_isSome.mpr ⟨entry, member, named⟩
        rw [found] at isSome
        cases isSome
      · rfl
    | some held =>
      have heldNamed : held.1 = other := by simpa using List.find?_some found
      by_cases same : other = components <;> simp [heldNamed, same]
  · rename_i absent
    rw [List.find?_append]
    by_cases same : other = components
    · subst same
      have none : tree.entries.find? (·.1 == other) = none := by
        rw [List.find?_eq_none]
        intro entry member named
        exact absent (List.any_eq_true.mpr ⟨entry, member, named⟩)
      simp [none]
    · simp [same, Ne.symm same]

theorem get?_removeBelow {removed other : List String} (kept : removed.isPrefixOf other = false) :
    (tree.removeBelow removed).get? other = tree.get? other := by
  by_cases root : other = []
  · subst root
    rfl
  rw [get?_of_ne_nil root, get?_of_ne_nil root, removeBelow]
  dsimp only
  rw [List.find?_filter]
  congr 2
  funext entry
  by_cases named : entry.1 = other <;> simp [named, kept]

theorem IsDirectory.take (sound : tree.Sound) {components : List String} (directory : tree.IsDirectory components)
    (count : Nat) : tree.IsDirectory (components.take count) := by
  rcases directory with root | found
  · subst root
    exact Or.inl List.take_nil
  by_cases short : count < components.length
  · have nonempty : components ≠ [] := List.ne_nil_of_length_pos (by omega)
    exact sound _ (mem_of_get? nonempty found) count short
  · rw [List.take_of_length_le (by omega)]
    exact Or.inr found

theorem IsDirectory.dropLast (sound : tree.Sound) {components : List String}
    (directory : tree.IsDirectory components) : tree.IsDirectory components.dropLast := by
  rw [List.dropLast_eq_take]
  exact directory.take sound _

theorem walk_isDirectory (sound : tree.Sound) :
    ∀ {current : List String} {pieces : List String} {reached : List String},
      tree.IsDirectory current → tree.walk current pieces = .ok reached → tree.IsDirectory reached.dropLast
  | current, [], reached, directory, walked => by
    cases walked
    exact directory.dropLast sound
  | current, [last], reached, directory, walked => by
    simp only [walk] at walked
    split at walked
    · cases walked
      exact directory.dropLast sound
    split at walked
    · cases walked
      exact (directory.dropLast sound).dropLast sound
    · cases walked
      rw [List.dropLast_concat]
      exact directory
  | current, piece :: next :: rest, reached, directory, walked => by
    simp only [walk] at walked
    split at walked
    · exact walk_isDirectory sound directory walked
    split at walked
    · exact walk_isDirectory sound (directory.dropLast sound) walked
    split at walked
    · cases walked
    · cases walked
    · rename_i entered
      exact walk_isDirectory sound (Or.inr entered) walked

theorem walk_of_keepsDirectories (keeps : KeepsDirectories tree after) :
    ∀ {current : List String} {pieces : List String} {reached : List String},
      tree.walk current pieces = .ok reached → after.walk current pieces = .ok reached
  | current, [], reached, walked => walked
  | current, [last], reached, walked => walked
  | current, piece :: next :: rest, reached, walked => by
    simp only [walk] at walked ⊢
    split at walked
    · rename_i here
      rw [if_pos here]
      exact walk_of_keepsDirectories keeps walked
    rename_i notHere
    rw [if_neg notHere]
    split at walked
    · rename_i up
      rw [if_pos up]
      exact walk_of_keepsDirectories keeps walked
    rename_i notUp
    rw [if_neg notUp]
    split at walked
    · cases walked
    · cases walked
    · rename_i entered
      rw [keeps _ entered]
      exact walk_of_keepsDirectories keeps walked

theorem locate_eq_ok {path : String} {location : Location} :
    tree.locate path = .ok location ↔ path.isEmpty = false ∧
      ∃ reached, tree.walk [] ((Path.pieces path).filter (!·.isEmpty)) = .ok reached ∧
        location = ⟨reached, path.endsWith "/" && !((Path.pieces path).filter (!·.isEmpty)).isEmpty⟩ := by
  unfold locate
  cases named : path.isEmpty with
  | true => simp [throw, throwThe, MonadExceptOf.throw, bind, Except.bind]
  | false =>
    simp only [Bool.false_eq_true, if_false, true_and]
    cases walked : tree.walk [] ((Path.pieces path).filter (!·.isEmpty)) with
    | error cause => simp [bind, Except.bind]
    | ok reached =>
      simp only [bind, Except.bind, pure, Except.pure, Except.ok.injEq, exists_eq_left']
      exact eq_comm

theorem locate_of_keepsDirectories (keeps : KeepsDirectories tree after) {path : String}
    {location : Location} (located : tree.locate path = .ok location) : after.locate path = .ok location := by
  obtain ⟨named, reached, walked, rfl⟩ := locate_eq_ok.mp located
  exact locate_eq_ok.mpr ⟨named, reached, walk_of_keepsDirectories keeps walked, rfl⟩

theorem mem_set {components : List String} {node : FileNode} {entry : List String × FileNode}
    (member : entry ∈ (tree.set components node).entries) :
    entry = (components, node) ∨ (entry ∈ tree.entries ∧ entry.1 ≠ components) := by
  unfold set at member
  split at member
  · obtain ⟨held, heldMember, rfl⟩ := List.mem_map.mp member
    by_cases named : held.1 = components
    · exact Or.inl (by simp [named])
    · exact Or.inr ⟨by simpa [named] using heldMember, by simp [named]⟩
  · rename_i absent
    rcases List.mem_append.mp member with old | added
    · refine Or.inr ⟨old, fun named => absent (List.any_eq_true.mpr ⟨entry, old, by simp [named]⟩)⟩
    · exact Or.inl (List.mem_singleton.mp added)

theorem IsDirectory.set {components : List String} (nonempty : components ≠ []) {node : FileNode}
    {other : List String} (directory : tree.IsDirectory other) (kept : other ≠ components ∨ node = .directory) :
    (tree.set components node).IsDirectory other := by
  rcases directory with root | found
  · exact Or.inl root
  refine Or.inr ?_
  rw [get?_set nonempty]
  split
  · rename_i same
    rcases kept with different | directory
    · exact absurd same different
    · rw [directory]
  · exact found

theorem Sound.set (sound : tree.Sound) {components : List String} (nonempty : components ≠ [])
    (parent : tree.IsDirectory components.dropLast) {node : FileNode}
    (replaces : node = .directory ∨ tree.get? components ≠ some .directory) :
    (tree.set components node).Sound := by
  intro entry member count short
  rcases mem_set member with rfl | ⟨old, named⟩
  · have leading : components.take count = components.dropLast.take count := by
      rw [List.dropLast_eq_take, List.take_take, Nat.min_eq_left (by simp at short; omega)]
    have shorter : components.take count ≠ components := fun same => by
      have := congrArg List.length same
      simp at this short
      omega
    rw [leading]
    exact (parent.take sound count).set nonempty (Or.inl (leading ▸ shorter))
  · refine (sound entry old count short).set nonempty ?_
    by_cases same : entry.1.take count = components
    · rcases replaces with directory | notDirectory
      · exact Or.inr directory
      · rcases sound entry old count short with root | found
        · exact absurd (same ▸ root) nonempty
        · exact absurd (same ▸ found) notDirectory
    · exact Or.inl same

theorem isPrefixOf_of_take {removed components : List String} {count : Nat}
    (below : removed.isPrefixOf (components.take count) = true) : removed.isPrefixOf components = true := by
  rw [ List.isPrefixOf_iff_prefix] at below ⊢
  exact below.trans ( List.take_prefix count components)

theorem Sound.removeBelow (sound : tree.Sound) (removed : List String) : (tree.removeBelow removed).Sound := by
  intro entry member count short
  simp only [FileTree.removeBelow, List.mem_filter, Bool.not_eq_true'] at member
  obtain ⟨old, kept⟩ := member
  rcases sound entry old count short with root | found
  · exact Or.inl root
  · refine Or.inr ?_
    rw [get?_removeBelow (Bool.eq_false_iff.mpr fun below => by
      rw [isPrefixOf_of_take below] at kept
      cases kept)]
    exact found

theorem keepsDirectories_set {components : List String} (nonempty : components ≠ []) {node : FileNode}
    (replaces : node = .directory ∨ tree.get? components ≠ some .directory) :
    KeepsDirectories tree (tree.set components node) := by
  intro other found
  rw [get?_set nonempty]
  split
  · rename_i same
    subst same
    rcases replaces with directory | notDirectory
    · rw [directory]
    · exact absurd found notDirectory
  · exact found

theorem keepsDirectories_removeBelow (sound : tree.Sound) {removed : List String} (nonempty : removed ≠ [])
    (notDirectory : tree.get? removed ≠ some .directory) : KeepsDirectories tree (tree.removeBelow removed) := by
  intro other found
  rw [get?_removeBelow (Bool.eq_false_iff.mpr fun below => ?_)]
  · exact found
  rw [ List.isPrefixOf_iff_prefix] at below
  obtain ⟨rest, rfl⟩ := below
  have entered : removed ++ rest ≠ [] := by simp [nonempty]
  cases rest with
  | nil => exact notDirectory (by simpa using found)
  | cons first more =>
    have leading : tree.IsDirectory ((removed ++ first :: more).take removed.length) :=
      sound _ (mem_of_get? entered found) removed.length (by simp)
    rw [List.take_left' rfl] at leading
    rcases leading with root | directory
    · exact nonempty root
    · exact notDirectory directory

theorem KeepsDirectories.trans {middle : FileTree} (first : KeepsDirectories tree middle)
    (second : KeepsDirectories middle after) : KeepsDirectories tree after :=
  fun components found => second components (first components found)

theorem IsDirectory.of_keepsDirectories (keeps : KeepsDirectories tree after) {components : List String}
    (directory : tree.IsDirectory components) : after.IsDirectory components :=
  directory.imp id (keeps components)

theorem get?_removeBelow_of_isPrefixOf {removed other : List String} (below : removed.isPrefixOf other = true)
    (nonempty : other ≠ []) : (tree.removeBelow removed).get? other = none := by
  rw [get?_of_ne_nil nonempty, removeBelow]
  dsimp only
  rw [List.find?_filter, List.find?_eq_none.mpr]
  · rfl
  intro entry _ found
  simp only [Bool.not_eq_true', beq_iff_eq, decide_eq_true_eq] at found
  obtain ⟨kept, named⟩ := found
  rw [named, below] at kept
  cases kept

theorem get?_removeBelow_ne_directory {removed other : List String} (nonempty : other ≠ [])
    (notDirectory : tree.get? other ≠ some .directory) : (tree.removeBelow removed).get? other ≠ some .directory := by
  cases below : removed.isPrefixOf other with
  | false => rwa [get?_removeBelow below]
  | true =>
    rw [get?_removeBelow_of_isPrefixOf below nonempty]
    simp

theorem locate_isDirectory (sound : tree.Sound) {path : String} {location : Location}
    (located : tree.locate path = .ok location) : tree.IsDirectory location.components.dropLast := by
  obtain ⟨-, reached, walked, rfl⟩ := locate_eq_ok.mp located
  exact walk_isDirectory sound (Or.inl rfl) walked

theorem trailingSlash_of_locate {path : String} {location : Location} (located : tree.locate path = .ok location)
    (named : path.endsWith "/" = false) : location.trailingSlash = false := by
  obtain ⟨-, reached, -, rfl⟩ := locate_eq_ok.mp located
  simp [named]

theorem find_eq_ok {path : String} {location : Location} {held : Option FileNode}
    (found : tree.find path = .ok (location, held)) :
    tree.locate path = .ok location ∧ held = tree.get? location.components := by
  unfold find at found
  cases located : tree.locate path with
  | error cause =>
    rw [located] at found
    cases found
  | ok place =>
    rw [located] at found
    simp only [bind, Except.bind] at found
    split at found
    · rename_i bytes holds
      split at found
      · cases found
      · cases found
        exact ⟨rfl, holds.symm⟩
    · cases found
      exact ⟨rfl, rfl⟩

theorem find_of_locate {path : String} {location : Location} (located : tree.locate path = .ok location)
    (named : path.endsWith "/" = false) : tree.find path = .ok (location, tree.get? location.components) := by
  have plain := trailingSlash_of_locate located named
  unfold find
  rw [located]
  simp only [bind, Except.bind]
  split
  · rename_i bytes holds
    rw [plain, holds]
    rfl
  · rfl

theorem writeFile_ok {path : String} {bytes : List UInt8} (written : tree.writeFile path bytes = .ok after) :
    ∃ location, tree.locate path = .ok location ∧ location.components ≠ [] ∧
      tree.get? location.components ≠ some .directory ∧ after = tree.set location.components (.file bytes) := by
  unfold writeFile openForWriting at written
  cases found : tree.find path with
  | error cause =>
    rw [found] at written
    cases written
  | ok result =>
    obtain ⟨location, held⟩ := result
    obtain ⟨located, rfl⟩ := find_eq_ok found
    rw [found] at written
    refine ⟨location, located, ?_⟩
    cases holds : tree.get? location.components with
    | none =>
      simp only [holds] at written
      split at written
      · cases written
      · rename_i opened
        simp only [bind, Except.bind, pure, Except.pure, Except.ok.injEq] at written
        simp only [Bool.or_eq_true, not_or, Bool.not_eq_true, List.isEmpty_eq_false_iff] at opened
        exact ⟨opened.2, by simp, written.symm⟩
    | some node =>
      cases node with
      | file old =>
        simp only [holds, bind, Except.bind, pure, Except.pure, Except.ok.injEq] at written
        refine ⟨fun root => ?_, by simp, written.symm⟩
        rw [root, get?_nil] at holds
        cases holds
      | directory =>
        simp only [holds] at written
        cases written

theorem makeDirectory_ok {path : String} (made : tree.makeDirectory path = .ok after) :
    ∃ location, tree.locate path = .ok location ∧ tree.get? location.components = none ∧
      after = tree.set location.components .directory := by
  unfold makeDirectory at made
  cases found : tree.find path with
  | error cause =>
    rw [found] at made
    cases made
  | ok result =>
    obtain ⟨location, held⟩ := result
    obtain ⟨located, rfl⟩ := find_eq_ok found
    rw [found] at made
    cases holds : tree.get? location.components with
    | none =>
      simp only [holds, Except.ok.injEq] at made
      exact ⟨location, located, holds, made.symm⟩
    | some node =>
      simp only [holds] at made
      cases made

theorem rename_file_ok {source target : String} {origin : Location} {bytes : List UInt8}
    (sourceLocated : tree.locate source = .ok origin) (holds : tree.get? origin.components = some (.file bytes))
    (renamed : tree.rename source target = .ok after) :
    ∃ location, tree.find target = .ok (location, tree.get? location.components) ∧
      ((location.components = origin.components ∧ after = tree) ∨
        (origin.components ≠ [] ∧ location.components ≠ [] ∧ tree.get? location.components ≠ some .directory ∧
          after = (tree.removeBelow origin.components).set location.components (.file bytes))) := by
  have sourceFound : tree.find source = .ok (origin, some (.file bytes)) := by
    have lookup : tree.find source =
        if origin.trailingSlash then .error .notDirectory else .ok (origin, some (.file bytes)) := by
      unfold find
      rw [sourceLocated]
      simp only [bind, Except.bind, holds]
      split <;> rfl
    cases trailing : origin.trailingSlash with
    | false => rw [lookup, trailing, if_neg Bool.false_ne_true]
    | true =>
      rw [trailing, if_pos rfl] at lookup
      unfold rename at renamed
      rw [lookup] at renamed
      cases renamed
  unfold rename at renamed
  rw [sourceFound] at renamed
  simp only [bind, Except.bind, pure, Except.pure] at renamed
  cases targetFound : tree.find target with
  | error cause =>
    rw [targetFound] at renamed
    cases renamed
  | ok result =>
    obtain ⟨location, held⟩ := result
    obtain ⟨-, rfl⟩ := find_eq_ok targetFound
    refine ⟨location, rfl, ?_⟩
    rw [targetFound] at renamed
    simp only at renamed
    split at renamed
    · rename_i same
      simp only [Except.ok.injEq] at renamed
      exact Or.inl ⟨(beq_iff_eq.mp same).symm, renamed.symm⟩
    split at renamed
    · cases renamed
    rename_i named
    simp only [Bool.or_eq_true, not_or, Bool.not_eq_true, List.isEmpty_eq_false_iff] at named
    refine Or.inr ⟨named.1, named.2, ?_⟩
    cases holds : tree.get? location.components with
    | none =>
      simp only [holds, Except.ok.injEq] at renamed
      exact ⟨by simp, renamed.symm⟩
    | some node =>
      cases node with
      | directory =>
        simp only [holds] at renamed
        cases renamed
      | file old =>
        simp only [holds, Except.ok.injEq] at renamed
        exact ⟨by simp, renamed.symm⟩

theorem Sound.makeDirectory (sound : tree.Sound) {path : String} (made : tree.makeDirectory path = .ok after) :
    after.Sound := by
  obtain ⟨location, located, missing, rfl⟩ := makeDirectory_ok made
  have nonempty : location.components ≠ [] := fun root => by
    rw [root, get?_nil] at missing
    cases missing
  exact sound.set nonempty (locate_isDirectory sound located) (Or.inl rfl)

theorem Sound.writeFile (sound : tree.Sound) {path : String} {bytes : List UInt8}
    (written : tree.writeFile path bytes = .ok after) : after.Sound := by
  obtain ⟨location, located, nonempty, notDirectory, rfl⟩ := writeFile_ok written
  exact sound.set nonempty (locate_isDirectory sound located) (Or.inr notDirectory)

theorem writeFile_located {path : String} {bytes : List UInt8} (written : tree.writeFile path bytes = .ok after) :
    ∃ location, after.locate path = .ok location ∧ after.get? location.components = some (.file bytes) := by
  obtain ⟨location, located, nonempty, notDirectory, rfl⟩ := writeFile_ok written
  refine ⟨location, locate_of_keepsDirectories (keepsDirectories_set nonempty (Or.inr notDirectory)) located, ?_⟩
  rw [get?_set nonempty, if_pos rfl]

theorem Sound.rename_file (sound : tree.Sound) {source target : String} {origin : Location}
    {bytes : List UInt8} (sourceLocated : tree.locate source = .ok origin)
    (holds : tree.get? origin.components = some (.file bytes)) (renamed : tree.rename source target = .ok after) :
    after.Sound := by
  obtain ⟨location, targetFound, moved⟩ := rename_file_ok sourceLocated holds renamed
  rcases moved with ⟨-, rfl⟩ | ⟨originNonempty, targetNonempty, targetNotDirectory, rfl⟩
  · exact sound
  · have keeps : KeepsDirectories tree (tree.removeBelow origin.components) :=
      keepsDirectories_removeBelow sound originNonempty (by rw [holds]; simp)
    exact (sound.removeBelow origin.components).set targetNonempty
      ((locate_isDirectory sound (find_eq_ok targetFound).1).of_keepsDirectories keeps)
      (Or.inr (get?_removeBelow_ne_directory targetNonempty targetNotDirectory))

theorem readFile_rename_file (sound : tree.Sound) {source path : String} {origin : Location}
    {bytes : List UInt8} (sourceLocated : tree.locate source = .ok origin)
    (holds : tree.get? origin.components = some (.file bytes)) (renamed : tree.rename source path = .ok after)
    (named : path.endsWith "/" = false) : after.readFile path = .ok bytes := by
  obtain ⟨target, targetFound, moved⟩ := rename_file_ok sourceLocated holds renamed
  have targetLocated := (find_eq_ok targetFound).1
  rcases moved with ⟨same, rfl⟩ | ⟨originNonempty, targetNonempty, targetNotDirectory, rfl⟩
  · rw [readFile, find_of_locate targetLocated named, same, holds]
  · have keepsMoved : KeepsDirectories tree
        ((tree.removeBelow origin.components).set target.components (.file bytes)) :=
      (keepsDirectories_removeBelow sound originNonempty (by rw [holds]; simp)).trans
        (keepsDirectories_set targetNonempty (Or.inr (get?_removeBelow_ne_directory targetNonempty targetNotDirectory)))
    rw [readFile, find_of_locate (locate_of_keepsDirectories keepsMoved targetLocated) named,
      get?_set targetNonempty, if_pos rfl]

/-- A program on a tree that keeps every sound tree sound. -/
def KeepsSound {α : Type} (program : StateM FileTree α) : Prop :=
  ∀ tree : FileTree, tree.Sound → (program.run tree).2.Sound

theorem KeepsSound.pure {α : Type} (value : α) : KeepsSound (Pure.pure value : StateM FileTree α) :=
  fun _ sound => sound

theorem KeepsSound.bind {α β : Type} {program : StateM FileTree α} {next : α → StateM FileTree β}
    (first : KeepsSound program) (rest : ∀ value, KeepsSound (next value)) : KeepsSound (program >>= next) :=
  fun tree sound => rest _ _ (first tree sound)

theorem keepsSound_stat (path : String) : KeepsSound (FileSystem.stat path : StateM FileTree _) :=
  fun _ sound => sound

theorem run_change_map (operation : FileTree → Except FileError FileTree) :
    (FileTree.change fun tree => (operation tree).map (·, ())).run tree =
      match operation tree with
      | .ok next => (.ok (), next)
      | .error failure => (.error failure, tree) := by
  unfold FileTree.change
  simp only [modifyGet, MonadStateOf.modifyGet, StateT.modifyGet, StateT.run]
  cases operation tree <;> rfl

theorem run_makeDirectory (path : String) :
    (FileSystem.makeDirectory path : StateM FileTree _).run tree =
      match tree.makeDirectory path with
      | .ok made => (.ok (), made)
      | .error failure => (.error failure, tree) :=
  run_change_map fun tree => tree.makeDirectory path

theorem run_writeFile (path : String) (bytes : List UInt8) :
    (FileSystem.writeFile path bytes : StateM FileTree _).run tree =
      match tree.writeFile path bytes with
      | .ok written => (.ok (), written)
      | .error failure => (.error failure, tree) :=
  run_change_map fun tree => tree.writeFile path bytes

theorem run_rename (source target : String) :
    (FileSystem.rename source target : StateM FileTree _).run tree =
      match tree.rename source target with
      | .ok moved => (.ok (), moved)
      | .error failure => (.error failure, tree) :=
  run_change_map fun tree => tree.rename source target

theorem keepsSound_makeDirectory (path : String) : KeepsSound (FileSystem.makeDirectory path : StateM FileTree _) := by
  intro tree sound
  rw [run_makeDirectory]
  cases made : tree.makeDirectory path with
  | error failure => exact sound
  | ok next => exact sound.makeDirectory made

theorem keepsSound_makeDirectoriesWithin :
    ∀ (fuel : Nat) (path : String), KeepsSound (FileSystem.makeDirectoriesWithin fuel path : StateM FileTree _)
  | 0, _ => KeepsSound.pure _
  | fuel + 1, path => by
    unfold FileSystem.makeDirectoriesWithin
    refine (keepsSound_stat path).bind fun found => ?_
    split
    · exact KeepsSound.pure _
    · exact KeepsSound.pure _
    · dsimp only
      split
      on_goal 1 =>
        refine (keepsSound_makeDirectoriesWithin fuel _).bind fun parent => ?_
        split
        · exact KeepsSound.pure _
      all_goals
        refine (keepsSound_makeDirectory path).bind fun made => ?_
        split
        · exact KeepsSound.pure _
        · exact (keepsSound_stat path).bind fun again => by split <;> exact KeepsSound.pure _

theorem run_bind_tree {α β : Type} (program : StateM FileTree α) (next : α → StateM FileTree β) :
    (program >>= next).run tree = (next (program.run tree).1).run (program.run tree).2 := rfl

theorem write_rename_ok {temporary path : String} {bytes : List UInt8}
    (done : ((FileSystem.writeFile temporary bytes : StateM FileTree _) >>= fun written =>
      match written with
      | .error failure => pure (.error failure)
      | _ => FileSystem.rename temporary path).run tree = (.ok (), after)) :
    ∃ written, tree.writeFile temporary bytes = .ok written ∧ written.rename temporary path = .ok after := by
  rw [run_bind_tree, run_writeFile] at done
  cases write : tree.writeFile temporary bytes with
  | error failure =>
    rw [write] at done
    cases done
  | ok written =>
    rw [write] at done
    dsimp only at done
    rw [run_rename] at done
    cases move : written.rename temporary path with
    | error failure =>
      rw [move] at done
      cases done
    | ok moved =>
      rw [move] at done
      cases done
      exact ⟨written, rfl, move⟩

theorem readFile_of_write_rename (sound : tree.Sound) {temporary path : String} {bytes : List UInt8}
    (named : path.endsWith "/" = false)
    (done : ((FileSystem.writeFile temporary bytes : StateM FileTree _) >>= fun written =>
      match written with
      | .error failure => pure (.error failure)
      | _ => FileSystem.rename temporary path).run tree = (.ok (), after)) :
    after.readFile path = .ok bytes := by
  obtain ⟨written, write, move⟩ := write_rename_ok done
  obtain ⟨origin, located, holds⟩ := writeFile_located write
  exact readFile_rename_file (sound.writeFile write) located holds move named

theorem Sound.of_write_rename (sound : tree.Sound) {temporary path : String} {bytes : List UInt8}
    (done : ((FileSystem.writeFile temporary bytes : StateM FileTree _) >>= fun written =>
      match written with
      | .error failure => pure (.error failure)
      | _ => FileSystem.rename temporary path).run tree = (.ok (), after)) :
    after.Sound := by
  obtain ⟨written, write, move⟩ := write_rename_ok done
  obtain ⟨origin, located, holds⟩ := writeFile_located write
  exact (sound.writeFile write).rename_file located holds move

end FileTree

theorem CoverageFile.save_ok {tree after : FileTree} (sound : tree.Sound) {path : String} {map : CoverageMap}
    {compress : Bool} (saved : (CoverageFile.save path map compress : StateM FileTree _).run tree = (.ok (), after)) :
    ∃ prepared : FileTree, prepared.Sound ∧
      ((FileSystem.writeFile (path ++ ".tmp") (CoverageFile.encode map compress) : StateM FileTree _) >>=
        fun written => match written with
          | .error failure => pure (.error failure)
          | _ => FileSystem.rename (path ++ ".tmp") path).run prepared = (.ok (), after) := by
  unfold CoverageFile.save at saved
  dsimp only at saved
  split at saved
  · rw [FileTree.run_bind_tree] at saved
    have prepared : ((FileSystem.makeDirectories (Path.dir path) : StateM FileTree _).run tree).2.Sound :=
      FileTree.keepsSound_makeDirectoriesWithin _ _ tree sound
    revert prepared saved
    generalize (FileSystem.makeDirectories (Path.dir path) : StateM FileTree _).run tree = made
    obtain ⟨result, prepared⟩ := made
    intro saved preparedSound
    split at saved
    · cases saved
    · exact ⟨prepared, preparedSound, saved⟩
  · exact ⟨tree, sound, saved⟩

/-- Saving a coverage map to a path that does not end in a slash, in a sound tree, leaves the
map's file at the path. -/
theorem CoverageFile.readFile_save {tree after : FileTree} (sound : tree.Sound) {path : String}
    (named : path.endsWith "/" = false) {map : CoverageMap} {compress : Bool}
    (saved : (CoverageFile.save path map compress : StateM FileTree _).run tree = (.ok (), after)) :
    after.readFile path = .ok (CoverageFile.encode map compress) := by
  obtain ⟨prepared, preparedSound, done⟩ := CoverageFile.save_ok sound saved
  exact FileTree.readFile_of_write_rename preparedSound named done

theorem CoverageFile.save_sound {tree after : FileTree} (sound : tree.Sound) {path : String}
    {map : CoverageMap} {compress : Bool}
    (saved : (CoverageFile.save path map compress : StateM FileTree _).run tree = (.ok (), after)) :
    after.Sound := by
  obtain ⟨prepared, preparedSound, done⟩ := CoverageFile.save_ok sound saved
  exact preparedSound.of_write_rename done

end Testbench
