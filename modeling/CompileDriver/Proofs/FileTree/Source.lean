import CompileDriver.Proofs.FileTree.Change

/-!
# Sources in a tree at work

`KeepsSource` says that the file at one place can be found as in an earlier tree.  It
survives whatever rewrites other files only.

`AtWork` says more about a tree in which a compiler is at work: what is new are files, and
the directory of the compiler if it has one.  In a well-formed tree nothing that was there
lies in a directory that has been made since.
-/

namespace CompileDriver.FileTree

variable {base tree after : FileTree} {source : Place} {scratch : Option Place}

/-- Paths lead where they led in an earlier tree, and the source is there as it was. -/
structure KeepsSource (base : FileTree) (source : Place) (tree : FileTree) : Prop where
  ways : SameWays base tree
  kept : tree.get? source = base.get? source

/-- What has come since an earlier tree are files, and a scratch directory at most. -/
structure AtWork (base : FileTree) (source : Place) (scratch : Option Place) (tree : FileTree) :
    Prop extends KeepsSource base source tree where
  loose : ∀ place, base.IsLoose place → scratch ≠ some place → tree.IsLoose place
  made : ∀ place, scratch = some place → tree.hasDirectory place = true

namespace SameWays

theorem refl (tree : FileTree) : SameWays tree tree :=
  fun _ => .inl rfl

theorem rewrites {may : Place → Prop} (ways : SameWays base tree)
    (rewrites : Rewrites may tree after) : SameWays base after := by
  intro place
  rcases rewrites place with same | ⟨-, loose, looseAfter⟩
  · rcases ways place with kept | ⟨looseBase, looseTree | isDirectory⟩
    · exact .inl (same.trans kept)
    · exact .inr ⟨looseBase, .inl (looseTree.of_same same)⟩
    · exact .inr ⟨looseBase, .inr (rewrites.hasDirectory isDirectory)⟩
  · rcases ways place with kept | ⟨looseBase, -⟩
    · exact .inr ⟨loose.of_same kept.symm, .inl looseAfter⟩
    · exact .inr ⟨looseBase, .inl looseAfter⟩

/-- A directory of the earlier tree is still there. -/
theorem hasDirectory (ways : SameWays base tree) {place : Place}
    (isDirectory : base.hasDirectory place = true) : tree.hasDirectory place = true := by
  rcases ways place with same | ⟨loose, -⟩
  · rw [FileTree.hasDirectory, same]
    exact isDirectory
  · rw [loose.not_hasDirectory] at isDirectory
    cases isDirectory

end SameWays

namespace KeepsSource

theorem refl (tree : FileTree) (source : Place) : KeepsSource tree source tree :=
  ⟨.refl tree, rfl⟩

theorem rewrites (keeps : KeepsSource base source tree)
    (rewrites : Rewrites (· ≠ source) tree after) : KeepsSource base source after where
  ways := keeps.ways.rewrites rewrites
  kept := by
    rcases rewrites source with same | ⟨different, -⟩
    · exact same.trans keeps.kept
    · exact absurd rfl different

/-- The path of the source leads to the same file. -/
theorem entry (keeps : KeepsSource base source tree) {current : Place} {path : Path}
    {content : Bytes} {executable : Bool}
    (found : base.entry current path = .ok (source, .file content executable)) :
    tree.entry current path = .ok (source, .file content executable) := by
  apply entry_alike keeps.ways found keeps.kept
  rw [get?_of_entry found]
  nofun

end KeepsSource

namespace AtWork

/-- Before anything has been made. -/
theorem of_rewrites (rewrites : Rewrites (· ≠ source) base tree) :
    AtWork base source none tree where
  toKeepsSource := (KeepsSource.refl base source).rewrites rewrites
  loose _ loose _ := rewrites.isLoose loose
  made := nofun

theorem rewrites (atWork : AtWork base source scratch tree)
    (rewrites : Rewrites (· ≠ source) tree after) : AtWork base source scratch after where
  toKeepsSource := atWork.toKeepsSource.rewrites rewrites
  loose place loose other := rewrites.isLoose (atWork.loose place loose other)
  made place isScratch := rewrites.hasDirectory (atWork.made place isScratch)

/-- As long as no directory was made, all directories have been there before. -/
theorem hasDirectory_base (atWork : AtWork base source none tree) {place : Place}
    (isDirectory : tree.hasDirectory place = true) : base.hasDirectory place = true := by
  rcases atWork.ways place with same | ⟨loose, -⟩
  · rw [FileTree.hasDirectory, ← same]
    exact isDirectory
  · rw [(atWork.loose place loose (by simp)).not_hasDirectory] at isDirectory
    cases isDirectory

variable {place : Place}

/-- At and below a place that is free, nothing has been before but files, and not the source. -/
theorem apart_of_free (atWork : AtWork base source scratch tree) (wellFormed : base.WellFormed)
    (stands : base.get? source ≠ none) (isFree : tree.get? place = none) {other : Place}
    (below : place <+: other) : base.IsLoose other ∧ other ≠ source := by
  by_cases same : other = place
  · subst same
    constructor
    · rcases atWork.ways other with same | ⟨loose, -⟩
      · exact .of_free (same.symm.trans isFree)
      · exact loose
    · rintro rfl
      exact stands (atWork.kept.symm.trans isFree)
  · -- a directory that was here would still be here
    have notDirectory : ¬ base.hasDirectory place = true := fun wasDirectory =>
      WellFormed.not_hasDirectory_of_free isFree (atWork.ways.hasDirectory wasDirectory)
    have nothing := wellFormed.nothing_below notDirectory below same
    constructor
    · exact .of_free nothing
    · rintro rfl
      exact stands nothing

/-- A new directory at a free place. -/
theorem makeDirectory (atWork : AtWork base source none tree) (stands : base.get? source ≠ none)
    (isFree : tree.get? place = none) :
    AtWork base source (some place) (tree.insert place Node.openDirectory) := by
  have below : place ≠ [] := by
    rintro rfl
    cases isFree
  have isDirectory : (tree.insert place Node.openDirectory).hasDirectory place = true := by
    rw [FileTree.hasDirectory, tree.get?_insert place below, if_pos rfl]
    rfl
  have others {other : Place} (different : other ≠ place) :
      (tree.insert place Node.openDirectory).get? other = tree.get? other := by
    rw [tree.get?_insert other below, if_neg different]
  refine ⟨⟨?_, ?_⟩, ?_, ?_⟩
  · intro other
    by_cases same : other = place
    · subst same
      rcases atWork.ways other with kept | ⟨loose, -⟩
      · exact .inr ⟨.of_free (kept.symm.trans isFree), .inr isDirectory⟩
      · exact .inr ⟨loose, .inr isDirectory⟩
    · rw [others same, FileTree.hasDirectory, others same]
      rcases atWork.ways other with kept | ⟨loose, looseTree | directory⟩
      · exact .inl kept
      · exact .inr ⟨loose, .inl (looseTree.of_same (others same))⟩
      · exact .inr ⟨loose, .inr directory⟩
  · rw [others, atWork.kept]
    rintro rfl
    exact stands (atWork.kept.symm.trans isFree)
  · intro other loose different
    have apart : other ≠ place := fun same => different (congrArg some same.symm)
    exact (atWork.loose other loose (by simp)).of_same (others apart)
  · rintro _ ⟨⟩
    exact isDirectory

/-- A directory with nothing of before in it is removed. -/
theorem removeDirectory (atWork : AtWork base source scratch tree)
    (apart : ∀ other, place <+: other → base.IsLoose other ∧ other ≠ source) :
    KeepsSource base source (tree.eraseAll place) where
  ways := by
    intro other
    rw [FileTree.hasDirectory, tree.get?_eraseAll]
    by_cases inside : place <+: other ∧ other ≠ []
    · rw [if_pos inside]
      refine .inr ⟨(apart other inside.1).1, .inl (.of_free ?_)⟩
      rw [tree.get?_eraseAll, if_pos inside]
    · rw [if_neg inside]
      rcases atWork.ways other with kept | ⟨loose, looseTree | isDirectory⟩
      · exact .inl kept
      · refine .inr ⟨loose, .inl (looseTree.of_same ?_)⟩
        rw [tree.get?_eraseAll, if_neg inside]
      · exact .inr ⟨loose, .inr isDirectory⟩
  kept := by
    rw [tree.get?_eraseAll, if_neg, atWork.kept]
    exact fun inside => (apart source inside.1).2 rfl

end AtWork

end CompileDriver.FileTree
