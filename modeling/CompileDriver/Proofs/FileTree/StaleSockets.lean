import CompileDriver.FileTree.StaleSockets
import CompileDriver.Proofs.FileTree.Lookup

/-!
# What a sweep removes

A sweep removes regular files and nothing else, and of these only the stale sockets that it
has found.
-/

namespace CompileDriver.FileTree

variable {tree : FileTree}

theorem isLoose_of_regularFilesBelow (wellFormed : tree.WellFormed) {depth : Nat}
    {start place : Place} (member : place ∈ tree.regularFilesBelow depth start) :
    tree.IsLoose place := by
  induction depth generalizing start with
  | zero => cases member
  | succ depth ih =>
      rw [regularFilesBelow] at member
      split at member
      · obtain ⟨⟨child, node⟩, isChild, found⟩ := List.mem_flatMap.mp member
        have stands := wellFormed.get?_of_mem (List.mem_filter.mp isChild |>.1)
        cases node with
        | file content executable =>
            rw [List.mem_singleton.mp found]
            exact .of_file stands
        | directory readable writable => exact ih found
        | _ => cases found
      · cases member

theorem isLoose_of_sweepCandidates (wellFormed : tree.WellFormed) {current place : Place}
    {path : Path} {name : Name} (member : (place, name) ∈ tree.sweepCandidates current path) :
    tree.IsLoose place := by
  have below (start : Place)
      (member : (place, name) ∈ (tree.regularFilesBelow (tree.entries.length + 1) start).map
        fun file => (file, file.getLastD [])) : tree.IsLoose place := by
    obtain ⟨file, isFile, same⟩ := List.mem_map.mp member
    cases same
    exact isLoose_of_regularFilesBelow wellFormed isFile
  unfold sweepCandidates at member
  split at member
  · cases member
  · rename_i start content executable found
    obtain ⟨rfl, -⟩ := Prod.mk.inj (List.mem_singleton.mp member)
    exact .of_file (get?_of_entry found)
  · split at member
    · exact below _ member
    · cases member
  · split at member
    · exact below _ member
    · cases member
  · cases member

/-- Stale sockets are regular files. -/
theorem isLoose_of_staleSockets (wellFormed : tree.WellFormed) {current place : Place}
    {path : Path} (member : place ∈ tree.staleSockets current path) : tree.IsLoose place := by
  obtain ⟨⟨file, name⟩, isCandidate, picked⟩ := List.mem_filterMap.mp member
  dsimp only at picked
  split at picked
  · cases picked
    exact isLoose_of_sweepCandidates wellFormed isCandidate
  · cases picked

theorem remove_ok {after : FileTree} {place : Place} (removed : tree.remove place = .ok after) :
    after = tree.erase place := by
  unfold remove at removed
  split at removed
  · cases removed
    rfl
  · cases removed

/-- A sweep rewrites nothing but stale sockets. -/
theorem rewrites_sweep (wellFormed : tree.WellFormed) (current : Place) (path : Path) :
    Rewrites (· ∈ tree.staleSockets current path) tree (tree.sweep current path).tree := by
  have each (places : List Place) (known : places ⊆ tree.staleSockets current path) (sweep : Sweep)
      (soFar : Rewrites (· ∈ tree.staleSockets current path) tree sweep.tree) :
      Rewrites (· ∈ tree.staleSockets current path) tree (places.foldl Sweep.visit sweep).tree := by
    induction places generalizing sweep with
    | nil => exact soFar
    | cons place rest ih =>
        obtain ⟨isStale, knownRest⟩ := List.cons_subset.mp known
        apply ih knownRest
        unfold Sweep.visit
        split
        · rename_i removed
          rw [remove_ok removed]
          have loose := soFar.isLoose (isLoose_of_staleSockets wellFormed isStale)
          apply soFar.trans
          apply (rewrites_erase loose).weaken
          rintro _ rfl
          exact isStale
        · exact soFar
  exact each _ (List.Subset.refl _) _ (.refl _ _)

end CompileDriver.FileTree
