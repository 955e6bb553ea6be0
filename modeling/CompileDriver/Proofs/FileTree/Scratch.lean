import CompileDriver.Proofs.FileTree.Source

/-!
# Trees with a scratch directory

A scratch directory is made where nothing stood, and what comes into it are files.  As long
as it is there, everything outside of it stands as it stood in an earlier tree, up to files
that may be rewritten.  Once it is removed with everything in it, nothing else differs from
the earlier tree.
-/

namespace CompileDriver.FileTree

/-- A directory that paths can enter, and in which there are files only. -/
structure HoldsFiles (tree : FileTree) (directory : Place) : Prop where
  entered : ∀ front, front <+: directory → tree.hasDirectory front = true
  files : ∀ place, directory <+: place → place ≠ directory → tree.IsLoose place

/-- A tree with a scratch directory, by what stood in an earlier tree. -/
structure HoldsScratch (may : Place → Prop) (scratch : Place) (base tree : FileTree) : Prop
    extends HoldsFiles tree scratch where
  unused : ∀ place, scratch <+: place →
    base.get? place = none ∨ may place ∧ base.IsLoose place
  outside : ∀ place, ¬ scratch <+: place →
    tree.get? place = base.get? place ∨ may place ∧ base.IsLoose place ∧ tree.IsLoose place

/-- What a path inside such a directory leads to: the name in it, or a directory. -/
theorem HoldsFiles.lookup {tree : FileTree} {directory current : Place} {name : Name}
    {purpose : Purpose} {target : Target} (holds : tree.HoldsFiles directory)
    (plain : ∀ name ∈ directory, Name.IsPlain name) (absent : Bytes.slash ∉ name)
    (found : tree.lookup current (directory.path ++ Bytes.slash :: name) purpose = .ok target) :
    target.place = directory ++ [name] ∨ tree.hasDirectory target.place = true := by
  apply lookup_inside plain holds.entered absent _ found
  intro link stands
  have loose := holds.files (directory ++ [name]) (List.prefix_append _ _) (by simp)
  exact nomatch loose _ stands

/-- The same entry put into both trees makes no difference. -/
theorem Rewrites.insert {may : Place → Prop} {before after : FileTree} {place : Place}
    (rewrites : Rewrites may before after) (below : place ≠ []) (node : Node) :
    Rewrites may (before.insert place node) (after.insert place node) := by
  intro other
  have early := before.get?_insert other below node
  have late := after.get?_insert other below node
  by_cases same : other = place
  · rw [if_pos same] at early late
    exact .inl (late.trans early.symm)
  · rw [if_neg same] at early late
    rcases rewrites other with kept | ⟨allowed, loose, looseToo⟩
    · exact .inl (late.trans (kept.trans early.symm))
    · exact .inr ⟨allowed, loose.of_same early, looseToo.of_same late⟩

/-- Only what is no directory is rewritten, so a directory was one before. -/
theorem Rewrites.hasDirectory_before {may : Place → Prop} {base tree : FileTree}
    (rewrites : Rewrites may base tree) {place : Place}
    (isDirectory : tree.hasDirectory place = true) : base.hasDirectory place = true := by
  rcases rewrites place with same | ⟨-, -, loose⟩
  · rw [FileTree.hasDirectory, ← same]
    exact isDirectory
  · rw [loose.not_hasDirectory] at isDirectory
    cases isDirectory

namespace HoldsScratch

variable {may : Place → Prop} {scratch temporary : Place} {name : Name} {base tree after : FileTree}

theorem loose_unused (holds : HoldsScratch may scratch base tree) {place : Place}
    (inside : scratch <+: place) : base.IsLoose place := by
  rcases holds.unused place inside with isFree | ⟨-, loose⟩
  · exact .of_free isFree
  · exact loose

theorem ne_root (holds : HoldsScratch may scratch base tree) : scratch ≠ [] :=
  (holds.loose_unused (List.prefix_refl scratch)).ne_root

/-- A scratch directory is made at a free place. -/
theorem makeDirectory (wellFormed : base.WellFormed) (rewrites : Rewrites may base tree)
    (isDirectory : tree.hasDirectory temporary = true)
    (isFree : tree.get? (temporary ++ [name]) = none) :
    HoldsScratch may (temporary ++ [name]) base
      (tree.insert (temporary ++ [name]) Node.openDirectory) := by
  have made (place : Place) :
      (tree.insert (temporary ++ [name]) Node.openDirectory).get? place =
        if place = temporary ++ [name] then some Node.openDirectory else tree.get? place :=
    tree.get?_insert place (by simp) _
  have base_directory : base.hasDirectory temporary = true :=
    rewrites.hasDirectory_before isDirectory
  -- a directory that was there would still be there
  have notDirectory : ¬ base.hasDirectory (temporary ++ [name]) = true :=
    fun wasDirectory =>
      WellFormed.not_hasDirectory_of_free isFree (rewrites.hasDirectory wasDirectory)
  have nothing {place : Place} (inside : temporary ++ [name] <+: place)
      (below : place ≠ temporary ++ [name]) : base.get? place = none :=
    wellFormed.nothing_below notDirectory inside below
  constructor
  · constructor
    · intro front isPrefix
      rw [FileTree.hasDirectory, made]
      split
      · rfl
      · rename_i other
        rcases List.prefix_concat_iff.mp isPrefix with same | higher
        · exact absurd same other
        · exact rewrites.hasDirectory (wellFormed.above_directory higher base_directory)
    · intro place inside below
      have same := made place
      rw [if_neg below] at same
      exact (rewrites.isLoose (.of_free (nothing inside below))).of_same same
  · intro place inside
    by_cases same : place = temporary ++ [name]
    · subst same
      rcases rewrites (temporary ++ [name]) with kept | ⟨allowed, loose, -⟩
      · exact .inl (kept.symm.trans isFree)
      · exact .inr ⟨allowed, loose⟩
    · exact .inl (nothing inside same)
  · intro place outside
    have other : place ≠ temporary ++ [name] := by
      rintro rfl
      exact outside (List.prefix_refl _)
    have same := made place
    rw [if_neg other] at same
    rcases rewrites place with kept | ⟨allowed, loose, looseToo⟩
    · exact .inl (same.trans kept)
    · exact .inr ⟨allowed, loose, looseToo.of_same same⟩

/-- Files may be rewritten inside, and those outside that may be. -/
theorem rewrites (holds : HoldsScratch may scratch base tree)
    (rewrites : Rewrites (fun place => may place ∨ scratch <+: place) tree after) :
    HoldsScratch may scratch base after where
  entered front isPrefix := rewrites.hasDirectory (holds.entered front isPrefix)
  files place inside below := rewrites.isLoose (holds.files place inside below)
  unused := holds.unused
  outside := by
    intro place outside
    rcases rewrites place with same | ⟨allowed, looseTree, looseAfter⟩
    · rcases holds.outside place outside with kept | ⟨allowed, loose, looseTree⟩
      · exact .inl (same.trans kept)
      · exact .inr ⟨allowed, loose, looseTree.of_same same⟩
    · have allowed := allowed.resolve_right outside
      rcases holds.outside place outside with kept | ⟨-, loose, -⟩
      · exact .inr ⟨allowed, looseTree.of_same kept.symm, looseAfter⟩
      · exact .inr ⟨allowed, loose, looseAfter⟩

theorem widen {might : Place → Prop} (holds : HoldsScratch may scratch base tree)
    (implies : ∀ place, may place → might place) : HoldsScratch might scratch base tree where
  toHoldsFiles := holds.toHoldsFiles
  unused place inside := (holds.unused place inside).imp_right fun known =>
    ⟨implies place known.1, known.2⟩
  outside place outside := (holds.outside place outside).imp_right fun known =>
    ⟨implies place known.1, known.2⟩

/-- Paths outside lead where they led. -/
theorem sameWays (holds : HoldsScratch may scratch base tree) : SameWays base tree := by
  intro place
  by_cases inside : scratch <+: place
  · refine .inr ⟨holds.loose_unused inside, ?_⟩
    by_cases same : place = scratch
    · exact .inr (holds.entered place (same ▸ List.prefix_refl place))
    · exact .inl (holds.files place inside same)
  · rcases holds.outside place inside with kept | ⟨-, loose, looseTree⟩
    · exact .inl kept
    · exact .inr ⟨loose, .inl looseTree⟩

/-- Removing the directory leaves the earlier tree, up to files that may be rewritten. -/
theorem removed (holds : HoldsScratch may scratch base tree) :
    Rewrites may base (tree.eraseAll scratch) := by
  intro place
  by_cases inside : scratch <+: place
  · have below : place ≠ [] := by
      rintro rfl
      exact holds.ne_root (List.prefix_nil.mp inside)
    have gone : (tree.eraseAll scratch).get? place = none := by
      rw [tree.get?_eraseAll, if_pos ⟨inside, below⟩]
    rcases holds.unused place inside with isFree | ⟨allowed, loose⟩
    · exact .inl (gone.trans isFree.symm)
    · exact .inr ⟨allowed, loose, .of_free gone⟩
  · have kept : (tree.eraseAll scratch).get? place = tree.get? place := by
      rw [tree.get?_eraseAll, if_neg fun both => inside both.1]
    rcases holds.outside place inside with same | ⟨allowed, loose, looseTree⟩
    · exact .inl (kept.trans same)
    · exact .inr ⟨allowed, loose, looseTree.of_same kept⟩

end HoldsScratch

end CompileDriver.FileTree
