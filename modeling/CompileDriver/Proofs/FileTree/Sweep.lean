import CompileDriver.Proofs.FileTree.Change
import CompileDriver.Proofs.FileTree.LastName
import CompileDriver.Proofs.FileTree.Source
import CompileDriver.Proofs.FileTree.StaleSockets
import CompileDriver.Proofs.Text.AsciiPrefix
import Mathlib.Data.List.Nodup
import Mathlib.Data.List.Perm.Subperm
import Mathlib.Data.Set.Card

/-!
# Which files a sweep removes

`Covers` says what belongs to a path: the entry that it names, and what is reached from the
directory that it leads to through readable directories.  `IsStale` are the regular files
among them with the name of a socket, told from the bytes of the name.

A sweep finds exactly the stale files, each of them once.  It removes those that their
directories permit, and since no directory is removed, the order makes no difference.
-/

namespace CompileDriver.FileTree

variable {tree : FileTree}

/-! ## Names -/

/-- The name of a socket can be told from its bytes. -/
theorem isSocketName_iff (name : Name) :
    isSocketName name = true ↔ Bytes.ofText "sock." <+: name := by
  have ascii : ∀ c ∈ socketPrefix.toList, Utf8.IsAscii c := by
    simp [socketPrefix, Utf8.IsAscii]
  have bytes : socketPrefix.toList.map (fun c => UInt8.ofNat c.toNat) = Bytes.ofText "sock." := by
    decide
  rw [isSocketName, List.isPrefixOf_iff_prefix, Utf8.isPrefix_lossy_iff ascii, bytes]

/-! ## What is reached -/

/-- A place is reached from a directory through readable directories. -/
inductive Reaches (tree : FileTree) : Place → Place → Prop
  /-- It lies in the directory itself. -/
  | child {directory : Place} {name : Name} {writable : Bool}
      (readable : tree.get? directory = some (.directory true writable)) :
      Reaches tree directory (directory ++ [name])
  /-- It is reached from a directory inside. -/
  | deeper {directory place : Place} {name : Name} {writable : Bool}
      (readable : tree.get? directory = some (.directory true writable))
      (reached : Reaches tree (directory ++ [name]) place) : Reaches tree directory place

/-- Whether a regular file stands at a place. -/
def HasFile (tree : FileTree) (place : Place) : Prop :=
  ∃ content executable, tree.get? place = some (.file content executable)

/-- What belongs to a path: the entry that it names, and what is reached from the directory
that it leads to. -/
inductive Covers (tree : FileTree) (current : Place) (path : Path) : Place → Prop
  | itself {place : Place} {node : Node}
      (named : tree.entry current path .useLink = .ok (place, node)) :
      Covers tree current path place
  | below {start place : Place} {node : Node} (leads : tree.entry current path = .ok (start, node))
      (reached : tree.Reaches start place) : Covers tree current path place

/-- A regular file that belongs to a path and has the name of a socket. -/
structure IsStale (tree : FileTree) (current : Place) (path : Path) (place : Place) : Prop where
  covered : tree.Covers current path place
  file : tree.HasFile place
  name : Bytes.ofText "sock." <+: place.getLastD []

namespace Reaches

variable {start place : Place}

theorem readable (reached : tree.Reaches start place) :
    ∃ writable, tree.get? start = some (.directory true writable) := by
  cases reached with
  | child readable => exact ⟨_, readable⟩
  | deeper readable reached => exact ⟨_, readable⟩

theorem isPrefix (reached : tree.Reaches start place) : ∃ name, start ++ [name] <+: place := by
  induction reached with
  | child readable => exact ⟨_, List.prefix_refl _⟩
  | deeper readable reached ih =>
      obtain ⟨_, isPrefix⟩ := ih
      exact ⟨_, (List.prefix_append _ _).trans isPrefix⟩

end Reaches

/-- No place is nested deeper than there are entries. -/
theorem WellFormed.length_le (wellFormed : tree.WellFormed) {place : Place}
    (stands : tree.get? place ≠ none) : place.length ≤ tree.entries.length := by
  -- the places on the way are entries, all of them different
  let fronts := (List.range place.length).map fun depth => place.take (depth + 1)
  have distinct : fronts.Nodup := by
    apply List.Nodup.map_on _ List.nodup_range
    intro first inside second insideToo same
    have lengths := congrArg List.length same
    simp only [List.length_take] at lengths
    have := List.mem_range.mp inside
    have := List.mem_range.mp insideToo
    omega
  have entries : fronts ⊆ tree.entries.map Prod.fst := by
    intro front member
    obtain ⟨depth, inside, rfl⟩ := List.mem_map.mp member
    have inside := List.mem_range.mp inside
    have present : tree.get? (place.take (depth + 1)) ≠ none := by
      by_cases whole : place.drop (depth + 1) = []
      · rwa [List.take_of_length_le (List.drop_eq_nil_iff.mp whole)]
      · apply get?_ne_none_of_hasDirectory
        apply wellFormed.above whole
        rwa [List.take_append_drop]
    obtain ⟨node, found⟩ := Option.ne_none_iff_exists'.mp present
    have notRoot : place.take (depth + 1) ≠ [] := by
      intro empty
      have none := congrArg List.length empty
      simp only [List.length_take, List.length_nil] at none
      omega
    rw [get?_of_ne_root tree notRoot] at found
    exact List.mem_map.mpr ⟨_, mem_of_lookup found, rfl⟩
  have count := (distinct.subperm entries).length_le
  simpa [fronts] using count

/-! ## What is found -/

theorem mem_children_iff (wellFormed : tree.WellFormed) {directory place : Place} {node : Node} :
    (place, node) ∈ tree.children directory ↔
      ∃ name, place = directory ++ [name] ∧ tree.get? place = some node := by
  rw [children, List.mem_filter]
  constructor
  · rintro ⟨member, inside⟩
    obtain ⟨notRoot, parent⟩ : place ≠ [] ∧ place.dropLast = directory := by simpa using inside
    refine ⟨place.getLast notRoot, ?_, wellFormed.get?_of_mem member⟩
    rw [← parent, List.dropLast_concat_getLast]
  · rintro ⟨name, rfl, found⟩
    rw [get?_of_ne_root tree (by simp)] at found
    exact ⟨mem_of_lookup found, by simp⟩

/-- The regular files in one child of a directory. -/
def foundIn (tree : FileTree) (depth : Nat) : Place × Node → List Place
  | (child, .file _ _) => [child]
  | (child, .directory _ _) => tree.regularFilesBelow depth child
  | _ => []

theorem regularFilesBelow_of_readable {directory : Place} {writable : Bool}
    (readable : tree.get? directory = some (.directory true writable)) (depth : Nat) :
    tree.regularFilesBelow (depth + 1) directory =
      (tree.children directory).flatMap (tree.foundIn depth) := by
  rw [regularFilesBelow, readable]
  apply List.flatMap_congr
  rintro ⟨child, node⟩ -
  cases node <;> rfl

theorem readable_of_mem {depth : Nat} {start place : Place}
    (member : place ∈ tree.regularFilesBelow (depth + 1) start) :
    ∃ writable, tree.get? start = some (.directory true writable) := by
  rw [regularFilesBelow] at member
  split at member
  · rename_i writable readable
    exact ⟨writable, readable⟩
  · cases member

theorem reaches_of_mem (wellFormed : tree.WellFormed) {depth : Nat} {start place : Place}
    (member : place ∈ tree.regularFilesBelow depth start) :
    tree.Reaches start place ∧ tree.HasFile place := by
  induction depth generalizing start with
  | zero => cases member
  | succ depth ih =>
      obtain ⟨writable, readable⟩ := readable_of_mem member
      rw [regularFilesBelow_of_readable readable] at member
      obtain ⟨⟨child, node⟩, isChild, found⟩ := List.mem_flatMap.mp member
      obtain ⟨name, rfl, stands⟩ := (mem_children_iff wellFormed).mp isChild
      cases node with
      | file content executable =>
          rw [List.mem_singleton.mp found]
          exact ⟨.child readable, content, executable, stands⟩
      | directory readableToo writableToo =>
          obtain ⟨reached, isFile⟩ := ih found
          exact ⟨.deeper readable reached, isFile⟩
      | _ => cases found

theorem mem_of_reaches (wellFormed : tree.WellFormed) {start place : Place}
    (reached : tree.Reaches start place) (isFile : tree.HasFile place) {depth : Nat}
    (deep : place.length ≤ start.length + depth) : place ∈ tree.regularFilesBelow depth start := by
  induction reached generalizing depth with
  | @child directory name writable readable =>
      cases depth with
      | zero => simp at deep
      | succ depth =>
          obtain ⟨content, executable, stands⟩ := isFile
          rw [regularFilesBelow_of_readable readable]
          apply List.mem_flatMap.mpr
          exact ⟨_, (mem_children_iff wellFormed).mpr ⟨name, rfl, stands⟩,
            List.mem_singleton.mpr rfl⟩
  | @deeper directory place name writable readable reached ih =>
      obtain ⟨further, isPrefix⟩ := reached.isPrefix
      have longer := isPrefix.length_le
      simp only [List.length_append, List.length_singleton] at longer
      cases depth with
      | zero => omega
      | succ depth =>
          obtain ⟨writableToo, inside⟩ := reached.readable
          rw [regularFilesBelow_of_readable readable]
          apply List.mem_flatMap.mpr
          refine ⟨_, (mem_children_iff wellFormed).mpr ⟨name, rfl, inside⟩, ih isFile ?_⟩
          simp only [List.length_append, List.length_singleton]
          omega

/-- A search finds the regular files that are reached. -/
theorem mem_regularFilesBelow_iff (wellFormed : tree.WellFormed) {start place : Place} :
    place ∈ tree.regularFilesBelow (tree.entries.length + 1) start ↔
      tree.Reaches start place ∧ tree.HasFile place := by
  constructor
  · exact reaches_of_mem wellFormed
  · rintro ⟨reached, isFile⟩
    apply mem_of_reaches wellFormed reached isFile
    obtain ⟨content, executable, stands⟩ := isFile
    have present : tree.get? place ≠ none := by simp [stands]
    have short := wellFormed.length_le present
    omega

theorem isPrefix_of_mem_foundIn (wellFormed : tree.WellFormed) {depth : Nat} {child place : Place}
    {node : Node} (member : place ∈ tree.foundIn depth (child, node)) : child <+: place := by
  cases node with
  | file content executable => rw [List.mem_singleton.mp member]
  | directory readable writable =>
      obtain ⟨name, isPrefix⟩ := (reaches_of_mem wellFormed member).1.isPrefix
      exact (List.prefix_append _ _).trans isPrefix
  | _ => cases member

/-- A search finds nothing twice. -/
theorem nodup_regularFilesBelow (wellFormed : tree.WellFormed) (depth : Nat) (start : Place) :
    (tree.regularFilesBelow depth start).Nodup := by
  induction depth generalizing start with
  | zero => exact List.nodup_nil
  | succ depth ih =>
      by_cases readable : ∃ writable, tree.get? start = some (.directory true writable)
      · obtain ⟨writable, readable⟩ := readable
        rw [regularFilesBelow_of_readable readable, List.nodup_flatMap]
        constructor
        · rintro ⟨child, node⟩ -
          cases node with
          | file content executable => exact List.nodup_singleton child
          | directory readableToo writableToo => exact ih child
          | _ => exact List.nodup_nil
        · -- what is found in a child lies at or below it, and the children are apart
          have distinct : (tree.children start).Pairwise fun first second => first.1 ≠ second.1 :=
            List.Pairwise.filter _ (List.pairwise_map.mp wellFormed.unique)
          apply distinct.imp_of_mem
          rintro ⟨first, node⟩ ⟨second, other⟩ isFirst isSecond apart
          obtain ⟨name, rfl, -⟩ := (mem_children_iff wellFormed).mp isFirst
          obtain ⟨nameToo, rfl, -⟩ := (mem_children_iff wellFormed).mp isSecond
          apply List.disjoint_left.mpr
          intro place inFirst inSecond
          have early := isPrefix_of_mem_foundIn wellFormed inFirst
          have late := isPrefix_of_mem_foundIn wellFormed inSecond
          exact apart ((List.prefix_of_prefix_length_le early late (by simp)).eq_of_length
            (by simp))
      · rw [regularFilesBelow]
        split
        · rename_i writable found
          exact absurd ⟨writable, found⟩ readable
        · exact List.nodup_nil

section

variable {current : Place} {path : Path}

theorem sweepCandidates_of_file {place : Place} {content : Bytes} {executable : Bool}
    (named : tree.entry current path .useLink = .ok (place, .file content executable)) :
    tree.sweepCandidates current path = [(place, (Path.fileName path).getD path)] := by
  rw [sweepCandidates, named]

theorem sweepCandidates_of_directory {start : Place} {readable writable : Bool}
    (leads : tree.entry current path = .ok (start, .directory readable writable)) :
    tree.sweepCandidates current path =
      (tree.regularFilesBelow (tree.entries.length + 1) start).map
        fun file => (file, file.getLastD []) := by
  rcases entry_useLink leads with named | ⟨there, link, named⟩
  · rw [sweepCandidates, named]
    dsimp only
    rw [leads]
  · rw [sweepCandidates, named]
    dsimp only
    rw [leads]

/-- There is something to look at only when the path names a file or leads to a directory. -/
theorem cases_of_mem_sweepCandidates {candidate : Place × Name}
    (member : candidate ∈ tree.sweepCandidates current path) :
    (∃ place content executable,
      tree.entry current path .useLink = .ok (place, .file content executable)) ∨
    ∃ start readable writable,
      tree.entry current path = .ok (start, .directory readable writable) := by
  unfold sweepCandidates at member
  split at member
  · cases member
  · rename_i place content executable named
    exact .inl ⟨place, content, executable, named⟩
  · split at member
    · rename_i start readable writable leads
      exact .inr ⟨start, readable, writable, leads⟩
    · cases member
  · split at member
    · rename_i start readable writable leads
      exact .inr ⟨start, readable, writable, leads⟩
    · cases member
  · cases member

theorem node_of_entry {purpose : Purpose} {place : Place} {node standing : Node}
    (found : tree.entry current path purpose = .ok (place, node))
    (stands : tree.get? place = some standing) : node = standing := by
  have isTrue := isTrue_of_lookup (lookup_of_entry found)
  rw [Target.IsTrue, stands] at isTrue
  exact isTrue.symm

/-- What a sweep looks at are the regular files that belong to its path, each with its own
name. -/
theorem mem_sweepCandidates_iff (wellFormed : tree.WellFormed)
    (here : tree.hasDirectory current = true) {place : Place} {name : Name} :
    (place, name) ∈ tree.sweepCandidates current path ↔
      tree.Covers current path place ∧ tree.HasFile place ∧ name = place.getLastD [] := by
  have ownName {file : Place} {content : Bytes} {executable : Bool}
      (named : tree.entry current path .useLink = .ok (file, .file content executable)) :
      (Path.fileName path).getD path = file.getLastD [] := by
    have notRoot : file ≠ [] := (IsLoose.of_file (get?_of_entry named)).ne_root
    rw [fileName_of_entry wellFormed here named, List.getLastD_eq_getLast?,
      List.getLast?_eq_some_getLast notRoot]
    rfl
  constructor
  · intro member
    rcases cases_of_mem_sweepCandidates member with
      ⟨file, content, executable, named⟩ | ⟨start, readable, writable, leads⟩
    · rw [sweepCandidates_of_file named, List.mem_singleton] at member
      obtain ⟨rfl, rfl⟩ := Prod.mk.inj member
      exact ⟨.itself named, ⟨content, executable, get?_of_entry named⟩, ownName named⟩
    · rw [sweepCandidates_of_directory leads] at member
      obtain ⟨file, found, same⟩ := List.mem_map.mp member
      obtain ⟨rfl, rfl⟩ := Prod.mk.inj same
      obtain ⟨reached, isFile⟩ := (mem_regularFilesBelow_iff wellFormed).mp found
      exact ⟨.below leads reached, isFile, rfl⟩
  · rintro ⟨covered, isFile, rfl⟩
    obtain ⟨content, executable, stands⟩ := id isFile
    cases covered with
    | itself named =>
        obtain rfl := node_of_entry named stands
        rw [sweepCandidates_of_file named, ownName named]
        exact List.mem_singleton.mpr rfl
    | below leads reached =>
        obtain ⟨writable, readable⟩ := reached.readable
        obtain rfl := node_of_entry leads readable
        rw [sweepCandidates_of_directory leads]
        exact List.mem_map.mpr
          ⟨place, (mem_regularFilesBelow_iff wellFormed).mpr ⟨reached, isFile⟩, rfl⟩

/-- A sweep finds exactly the stale files. -/
theorem mem_staleSockets_iff (wellFormed : tree.WellFormed)
    (here : tree.hasDirectory current = true) {place : Place} :
    place ∈ tree.staleSockets current path ↔ tree.IsStale current path place := by
  rw [staleSockets, List.mem_filterMap]
  constructor
  · rintro ⟨⟨file, name⟩, candidate, picked⟩
    obtain ⟨covered, isFile, rfl⟩ := (mem_sweepCandidates_iff wellFormed here).mp candidate
    dsimp only at picked
    split at picked
    · rename_i isSocket
      cases picked
      exact ⟨covered, isFile, (isSocketName_iff _).mp isSocket⟩
    · cases picked
  · intro stale
    refine ⟨(place, place.getLastD []), ?_, ?_⟩
    · exact (mem_sweepCandidates_iff wellFormed here).mpr ⟨stale.covered, stale.file, rfl⟩
    · exact if_pos ((isSocketName_iff _).mpr stale.name)

/-- A sweep finds nothing twice. -/
theorem nodup_staleSockets (wellFormed : tree.WellFormed) :
    (tree.staleSockets current path).Nodup := by
  have candidates : ((tree.sweepCandidates current path).map Prod.fst).Nodup := by
    by_cases nothing : tree.sweepCandidates current path = []
    · rw [nothing]
      exact List.nodup_nil
    · obtain ⟨candidate, member⟩ := List.exists_mem_of_ne_nil _ nothing
      rcases cases_of_mem_sweepCandidates member with
        ⟨file, content, executable, named⟩ | ⟨start, readable, writable, leads⟩
      · rw [sweepCandidates_of_file named]
        exact List.nodup_singleton file
      · rw [sweepCandidates_of_directory leads, List.map_map]
        exact (List.map_id _).symm ▸ nodup_regularFilesBelow wellFormed _ start
  have picked : tree.staleSockets current path =
      ((tree.sweepCandidates current path).filter fun candidate =>
        isSocketName candidate.2).map Prod.fst := by
    rw [staleSockets]
    induction tree.sweepCandidates current path with
    | nil => rfl
    | cons candidate rest ih =>
        rw [List.filterMap_cons, List.filter_cons, ih]
        split <;> simp_all
  rw [picked]
  exact (List.filter_sublist.map Prod.fst).nodup candidates

end

/-! ## What is removed -/

/-- Whether the directory of an entry permits that it is removed. -/
def Permits (tree : FileTree) (place : Place) : Prop :=
  ∃ readable, tree.get? place.dropLast = some (.directory readable true)

instance (tree : FileTree) (place : Place) : Decidable (tree.Permits place) :=
  decidable_of_iff (tree.get? place.dropLast = some (.directory true true) ∨
    tree.get? place.dropLast = some (.directory false true)) <| by
      simp [Permits, Bool.exists_bool, or_comm]

theorem remove_eq (place : Place) :
    tree.remove place =
      if tree.Permits place then .ok (tree.erase place) else .error .accessDenied := by
  unfold remove
  split
  · rename_i readable found
    rw [if_pos ⟨readable, found⟩]
  · rename_i other
    rw [if_neg]
    rintro ⟨readable, found⟩
    exact other readable found

/-- Directories permit the same after files have been rewritten. -/
theorem Rewrites.permits_iff {may : Place → Prop} {after : FileTree}
    (rewrites : Rewrites may tree after) (place : Place) :
    after.Permits place ↔ tree.Permits place := by
  rcases rewrites place.dropLast with same | ⟨-, loose, looseAfter⟩
  · rw [Permits, Permits, same]
  · constructor
    · rintro ⟨readable, found⟩
      cases looseAfter _ found
    · rintro ⟨readable, found⟩
      cases loose _ found

/-- To remove files one after the other removes those that were permitted at the start. -/
theorem foldl_visit (places : List Place) (sweep : Sweep)
    (loose : ∀ place ∈ places, sweep.tree.IsLoose place) :
    places.foldl Sweep.visit sweep =
      { tree := (places.filter (sweep.tree.Permits ·)).foldl erase sweep.tree
        removed := sweep.removed + (places.filter (sweep.tree.Permits ·)).length
        refused := sweep.refused ++ (places.filter (¬ sweep.tree.Permits ·)).map
          fun place => (place, .accessDenied) } := by
  induction places generalizing sweep with
  | nil => simp
  | cons place rest ih =>
      obtain ⟨looseFirst, looseRest⟩ := List.forall_mem_cons.mp loose
      have erased := rewrites_erase looseFirst
      by_cases permits : sweep.tree.Permits place
      · have visited : sweep.visit place =
            { sweep with tree := sweep.tree.erase place, removed := sweep.removed + 1 } := by
          rw [Sweep.visit, remove_eq, if_pos permits]
        rw [List.foldl_cons, visited, ih _ fun other member =>
          erased.isLoose (looseRest other member)]
        simp only [erased.permits_iff]
        simp [permits]
        omega
      · have visited : sweep.visit place =
            { sweep with refused := sweep.refused ++ [(place, .accessDenied)] } := by
          rw [Sweep.visit, remove_eq, if_neg permits]
        rw [List.foldl_cons, visited,
          ih { sweep with refused := sweep.refused ++ [(place, .accessDenied)] } looseRest]
        simp [permits]

theorem get?_foldl_erase {places : List Place} (notRoot : [] ∉ places) (tree : FileTree)
    (place : Place) :
    (places.foldl erase tree).get? place = if place ∈ places then none else tree.get? place := by
  induction places generalizing tree with
  | nil => simp
  | cons first rest ih =>
      obtain ⟨notFirst, notRest⟩ := not_or.mp (List.mem_cons.not.mp notRoot)
      rw [List.foldl_cons, ih notRest, get?_erase]
      by_cases same : place = first
      · subst same
        simp [Ne.symm notFirst]
      · simp [same]

theorem WellFormed.foldl_erase {places : List Place} (wellFormed : tree.WellFormed)
    (loose : ∀ place ∈ places, tree.IsLoose place) :
    (places.foldl FileTree.erase tree).WellFormed := by
  induction places generalizing tree with
  | nil => exact wellFormed
  | cons first rest ih =>
      obtain ⟨looseFirst, looseRest⟩ := List.forall_mem_cons.mp loose
      have erased := rewrites_erase looseFirst
      exact ih (wellFormed.erase looseFirst) fun other member =>
        erased.isLoose (looseRest other member)

section

variable {current : Place} {path : Path}

/-- The files that a sweep finds and may remove. -/
def doomed (tree : FileTree) (current : Place) (path : Path) : List Place :=
  (tree.staleSockets current path).filter (tree.Permits ·)

theorem sweep_eq (wellFormed : tree.WellFormed) :
    tree.sweep current path =
      { tree := (tree.doomed current path).foldl erase tree
        removed := (tree.doomed current path).length
        refused := ((tree.staleSockets current path).filter (¬ tree.Permits ·)).map
          fun place => (place, .accessDenied) } := by
  rw [sweep, foldl_visit _ _ fun place => isLoose_of_staleSockets wellFormed]
  simp [doomed]

theorem mem_doomed_iff (wellFormed : tree.WellFormed) (here : tree.hasDirectory current = true)
    {place : Place} :
    place ∈ tree.doomed current path ↔ tree.IsStale current path place ∧ tree.Permits place := by
  rw [doomed, List.mem_filter, mem_staleSockets_iff wellFormed here, decide_eq_true_iff]

theorem isLoose_of_doomed (wellFormed : tree.WellFormed) {place : Place}
    (member : place ∈ tree.doomed current path) : tree.IsLoose place :=
  isLoose_of_staleSockets wellFormed (List.mem_filter.mp member).1

/-- A sweep removes the stale files that it may remove, and leaves the rest alone. -/
theorem get?_sweep (wellFormed : tree.WellFormed) (current : Place) (path : Path) (place : Place) :
    (tree.sweep current path).tree.get? place =
      if place ∈ tree.doomed current path then none else tree.get? place := by
  rw [sweep_eq wellFormed]
  apply get?_foldl_erase
  intro member
  exact (isLoose_of_doomed wellFormed member).ne_root rfl

theorem WellFormed.sweep (wellFormed : tree.WellFormed) :
    (tree.sweep current path).tree.WellFormed := by
  rw [sweep_eq wellFormed]
  exact wellFormed.foldl_erase fun place member => isLoose_of_doomed wellFormed member

/-- The number of files that a sweep reports is that of the stale files that it may remove. -/
theorem removed_sweep (wellFormed : tree.WellFormed) (here : tree.hasDirectory current = true) :
    (tree.sweep current path).removed =
      {place | tree.IsStale current path place ∧ tree.Permits place}.ncard := by
  have same : {place | tree.IsStale current path place ∧ tree.Permits place} =
      ((tree.doomed current path).toFinset : Set Place) := by
    ext place
    simp [mem_doomed_iff wellFormed here]
  have distinct : (tree.doomed current path).Nodup := (nodup_staleSockets wellFormed).filter _
  rw [same, Set.ncard_coe_finset, List.toFinset_card_of_nodup distinct, sweep_eq wellFormed]

/-! ## Stale files of a later tree -/

variable {after : FileTree} {may : Place → Prop}

theorem Rewrites.symm (rewrites : Rewrites may tree after) : Rewrites may after tree := by
  intro place
  rcases rewrites place with same | ⟨allowed, loose, looseAfter⟩
  · exact .inl same.symm
  · exact .inr ⟨allowed, looseAfter, loose⟩

/-- What is no file is as it was. -/
theorem Rewrites.get?_eq (rewrites : Rewrites may tree after) {place : Place} {node : Node}
    (found : after.get? place = some node) (notFile : node.isFile = false) :
    tree.get? place = some node := by
  rcases rewrites place with same | ⟨-, -, loose⟩
  · rw [← same, found]
  · rw [loose node found] at notFile
    cases notFile

theorem Rewrites.reaches (rewrites : Rewrites may tree after) {start place : Place}
    (reached : after.Reaches start place) : tree.Reaches start place := by
  induction reached with
  | child readable => exact .child (rewrites.get?_eq readable rfl)
  | deeper readable reached ih => exact .deeper (rewrites.get?_eq readable rfl) ih

/-- What belongs to a path in a later tree belonged to it before, if it was there. -/
theorem Rewrites.covers (rewrites : Rewrites may tree after) {place : Place}
    (covered : after.Covers current path place) (stood : tree.HasFile place) :
    tree.Covers current path place := by
  have ways : SameWays after tree := (SameWays.refl after).rewrites rewrites.symm
  cases covered with
  | itself named =>
      obtain ⟨target, looked, same⟩ := lookup_alike ways (lookup_of_entry named) (.inr (by simp))
      obtain ⟨content, executable, stands⟩ := stood
      have told := isTrue_of_lookup looked
      cases target with
      | missing parent name =>
          rw [Target.IsTrue, show parent ++ [name] = place from same, stands] at told
          cases told
      | found there node =>
          obtain rfl : there = place := same
          exact .itself (by rw [entry, looked]; rfl)
  | below leads reached =>
      obtain ⟨writable, readable⟩ := reached.readable
      obtain rfl := node_of_entry leads readable
      have before := rewrites.get?_eq readable rfl
      exact .below (entry_alike ways leads (before.trans readable.symm) (by simp [readable]))
        (rewrites.reaches reached)

/-- A stale file of a later tree was stale before, if it was there. -/
theorem Rewrites.isStale (rewrites : Rewrites may tree after) {place : Place}
    (stale : after.IsStale current path place) (stood : tree.HasFile place) :
    tree.IsStale current path place :=
  ⟨rewrites.covers stale.covered stood, stood, stale.name⟩

end

end CompileDriver.FileTree
