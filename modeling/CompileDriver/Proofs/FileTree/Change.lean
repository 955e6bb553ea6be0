import CompileDriver.FileTree.Change
import CompileDriver.Proofs.FileTree.Lookup

/-!
# What operations rewrite

Writing to a file, whether it is there already or not, rewrites the file that the path leads
to and nothing else.

`Grows` relates two trees of which the second one has more in some of its files, and nothing
else.  A tree stays well-formed when a file grows or goes.
-/

namespace CompileDriver.FileTree

section

variable (tree : FileTree) (place : Place)

theorem rewrites_append (bytes : Bytes) : Rewrites (· = place) tree (tree.append place bytes) := by
  unfold append
  split
  · rename_i found
    exact rewrites_insert (.of_file found) _ _
  · exact .refl _ _

theorem rewrites_setContent (content : Bytes) :
    Rewrites (· = place) tree (tree.setContent place content) := by
  unfold setContent
  split
  · rename_i found
    exact rewrites_insert (.of_file found) _ _
  · exact .refl _ _

theorem rewrites_setExecutable (executable : Bool) :
    Rewrites (· = place) tree (tree.setExecutable place executable) := by
  unfold setExecutable
  split
  · rename_i found
    exact rewrites_insert (.of_file found) _ _
  · exact .refl _ _

end

variable {tree after : FileTree} {current place : Place} {path : Path}

/-- The place that is written to is the one that the path leads to. -/
theorem openForWriting_ok {executable : Bool}
    (opened : tree.openForWriting current path executable = .ok (after, place)) :
    ∃ target, tree.lookup current path .create = .ok target ∧ target.place = place ∧
      Rewrites (· = place) tree after := by
  unfold openForWriting at opened
  cases looked : tree.lookup current path .create with
  | error error => simp [looked] at opened
  | ok target =>
      have isTrue := isTrue_of_lookup looked
      cases target with
      | found here node =>
          simp only [looked] at opened
          split at opened
          · cases opened
          · cases opened
            exact ⟨_, rfl, rfl, .refl _ _⟩
      | missing parent name =>
          simp only [looked] at opened
          split at opened
          · cases opened
            exact ⟨_, rfl, rfl, rewrites_insert (.of_free isTrue) _ _⟩
          · cases opened

theorem write_ok {content : Bytes} {executable : Bool}
    (written : tree.write current path content executable = .ok after) :
    ∃ target, tree.lookup current path .create = .ok target ∧
      Rewrites (· = target.place) tree after := by
  unfold write at written
  split at written
  · cases written
  · rename_i opened
    cases written
    obtain ⟨target, looked, rfl, rewrites⟩ := openForWriting_ok opened
    exact ⟨target, looked, rewrites.trans (rewrites_setContent _ _ _)⟩

theorem copy_ok {source : Path} (copied : tree.copy current source path = .ok after) :
    ∃ target, tree.lookup current path .create = .ok target ∧
      Rewrites (· = target.place) tree after := by
  unfold copy at copied
  split at copied
  · cases copied
  · split at copied
    · cases copied
    · rename_i opened
      cases copied
      obtain ⟨target, looked, rfl, rewrites⟩ := openForWriting_ok opened
      refine ⟨target, looked, rewrites.trans ?_⟩
      apply (rewrites_setContent _ _ _).trans
      exact (rewrites_setContent _ _ _).trans (rewrites_setExecutable _ _ _)
  · cases copied

/-! ## What a copy holds -/

theorem get?_setContent {content earlier : Bytes} {executable : Bool} (other : Place)
    (found : tree.get? place = some (.file earlier executable)) :
    (tree.setContent place content).get? other =
      if other = place then some (.file content executable) else tree.get? other := by
  rw [setContent, found]
  exact tree.get?_insert other (IsLoose.of_file found).ne_root _

theorem get?_setExecutable {content : Bytes} {earlier executable : Bool} (other : Place)
    (found : tree.get? place = some (.file content earlier)) :
    (tree.setExecutable place executable).get? other =
      if other = place then some (.file content executable) else tree.get? other := by
  rw [setExecutable, found]
  exact tree.get?_insert other (IsLoose.of_file found).ne_root _

/-- What can be opened for writing is no directory, a new file comes into a directory, and
where it is a file or a free name, a file can be found afterwards. -/
theorem openForWriting_file {executable : Bool}
    (opened : tree.openForWriting current path executable = .ok (after, place)) :
    tree.hasDirectory place = false ∧
      (tree.get? place = none → tree.hasDirectory place.dropLast = true) ∧
      (tree.IsLoose place →
        ∃ content permitted, after.get? place = some (.file content permitted)) ∧
      ∀ other, other ≠ place → after.get? other = tree.get? other := by
  unfold openForWriting at opened
  cases looked : tree.lookup current path .create with
  | error error => simp [looked] at opened
  | ok target =>
      have isTrue := isTrue_of_lookup looked
      cases target with
      | found here node =>
          simp only [looked] at opened
          split at opened
          · cases opened
          · rename_i notDirectory
            cases opened
            have isTrue : (tree.get? place).getD Node.openDirectory = node := isTrue
            cases stands : tree.get? place with
            | none =>
                rw [stands] at isTrue
                subst isTrue
                exact absurd rfl notDirectory
            | some standing =>
                rw [stands] at isTrue
                obtain rfl : standing = node := isTrue
                refine ⟨by simpa [hasDirectory, stands] using notDirectory, nofun, ?_,
                  fun _ _ => rfl⟩
                intro loose
                obtain ⟨content, permitted, rfl⟩ := loose.eq_file stands
                exact ⟨content, permitted, rfl⟩
      | missing parent name =>
          simp only [looked] at opened
          split at opened
          · rename_i inDirectory
            cases opened
            have stands (other : Place) :
                (tree.insert (parent ++ [name]) (.file [] executable)).get? other =
                  if other = parent ++ [name] then some (.file [] executable)
                  else tree.get? other :=
              tree.get?_insert other (by simp) _
            refine ⟨?_, fun _ => ?_, fun _ => ⟨[], executable, ?_⟩, fun other different => ?_⟩
            · exact (IsLoose.of_free isTrue).not_hasDirectory
            · rw [List.dropLast_concat]
              exact inDirectory
            · rw [stands, if_pos rfl]
            · rw [stands, if_neg different]
          · cases opened

/-- After a copy from another place, the target holds what the source held, if it can hold
anything. -/
theorem copy_file {source : Path} (copied : tree.copy current source path = .ok after) :
    ∃ origin content executable target,
      tree.entry current source = .ok (origin, .file content executable) ∧
        tree.lookup current path .create = .ok target ∧
          tree.hasDirectory target.place = false ∧
            (origin ≠ target.place → tree.IsLoose target.place →
              after.get? target.place = some (.file content executable)) := by
  unfold copy at copied
  split at copied
  · cases copied
  · rename_i origin content executable sourced
    split at copied
    · cases copied
    · rename_i opening here opened
      cases copied
      obtain ⟨target, looked, rfl, -⟩ := openForWriting_ok opened
      obtain ⟨notDirectory, -, holds, others⟩ := openForWriting_file opened
      refine ⟨origin, content, executable, target, sourced, looked, notDirectory, ?_⟩
      intro apart loose
      obtain ⟨earlier, permitted, found⟩ := holds loose
      have emptied (other : Place) :
          (opening.setContent target.place []).get? other =
            if other = target.place then some (.file [] permitted) else opening.get? other :=
        get?_setContent other found
      have kept : (opening.setContent target.place []).contentAt origin = content := by
        rw [contentAt, emptied, if_neg apart, others origin apart, get?_of_entry sourced]
      have isEmpty : (opening.setContent target.place []).get? target.place =
          some (.file [] permitted) := by
        rw [emptied, if_pos rfl]
      have filled : ((opening.setContent target.place []).setContent target.place content).get?
          target.place = some (.file content permitted) := by
        rw [get?_setContent _ isEmpty, if_pos rfl]
      rw [kept, get?_setExecutable _ filled, if_pos rfl]
  · cases copied

/-! ## Files that grow and files that go -/

/-- From one tree to another only files have grown, at places that may be written to. -/
def Grows (may : Place → Prop) (before after : FileTree) : Prop :=
  ∀ place, after.get? place = before.get? place ∨
    may place ∧ ∃ content more executable, before.get? place = some (.file content executable) ∧
      after.get? place = some (.file (content ++ more) executable)

namespace Grows

variable {may : Place → Prop} {first second third : FileTree}

theorem refl (may : Place → Prop) (tree : FileTree) : Grows may tree tree :=
  fun _ => .inl rfl

theorem trans (start : Grows may first second) (rest : Grows may second third) :
    Grows may first third := by
  intro place
  rcases start place with early | ⟨allowed, content, more, executable, before, middle⟩
  · rw [← early]
    exact rest place
  · rcases rest place with late | ⟨-, found, most, _, stands, after⟩
    · exact .inr ⟨allowed, content, more, executable, before, late.trans middle⟩
    · rw [middle] at stands
      cases stands
      exact .inr ⟨allowed, content, more ++ most, executable, before,
        by rw [after, List.append_assoc]⟩

theorem weaken {might : Place → Prop} (grows : Grows may first second)
    (implies : ∀ place, may place → might place) : Grows might first second :=
  fun place => (grows place).imp_right (And.imp_left (implies place))

theorem rewrites (grows : Grows may first second) : Rewrites may first second := by
  intro place
  rcases grows place with same | ⟨allowed, _, _, _, before, after⟩
  · exact .inl same
  · exact .inr ⟨allowed, .of_file before, .of_file after⟩

/-- What is there was there, and what was there is there. -/
theorem get?_eq_none_iff (grows : Grows may first second) (place : Place) :
    second.get? place = none ↔ first.get? place = none := by
  rcases grows place with same | ⟨-, _, _, _, before, after⟩
  · rw [same]
  · simp [before, after]

end Grows

theorem grows_append (tree : FileTree) (place : Place) (bytes : Bytes) :
    Grows (· = place) tree (tree.append place bytes) := by
  intro other
  unfold append
  split
  · rename_i content executable stands
    have below : place ≠ [] := (IsLoose.of_file stands).ne_root
    rw [tree.get?_insert other below]
    by_cases same : other = place
    · subst same
      exact .inr ⟨rfl, content, bytes, executable, stands, if_pos rfl⟩
    · exact .inl (if_neg same)
  · exact .inl rfl

namespace WellFormed

/-- A file can be removed. -/
theorem erase (wellFormed : tree.WellFormed) {place : Place} (loose : tree.IsLoose place) :
    (tree.erase place).WellFormed where
  unique := (List.filter_sublist.map Prod.fst).nodup wellFormed.unique
  inside entry member := by
    obtain ⟨notRoot, plain, isDirectory⟩ := wellFormed.inside entry (List.mem_filter.mp member).1
    exact ⟨notRoot, plain, (rewrites_erase loose).hasDirectory isDirectory⟩

/-- A file can get another content. -/
theorem replace (wellFormed : tree.WellFormed) {place : Place} {content : Bytes}
    {executable : Bool} (stands : tree.get? place = some (.file content executable))
    (other : Bytes) : (tree.insert place (.file other executable)).WellFormed := by
  have loose : tree.IsLoose place := .of_file stands
  have rewrites := rewrites_insert loose other executable
  have taken : (tree.entries.lookup place).isSome = true := by
    rw [← get?_of_ne_root tree loose.ne_root, stands]
    rfl
  have entries : (tree.insert place (.file other executable)).entries =
      tree.entries.map fun entry =>
        if entry.1 = place then (place, .file other executable) else entry := by
    rw [insert, if_pos taken]
  have place_kept (entry : Place × Node) :
      (if entry.1 = place then (place, Node.file other executable) else entry).1 = entry.1 := by
    split
    · rename_i same
      exact same.symm
    · rfl
  constructor
  · rw [entries, List.map_map]
    simpa only [Function.comp_def, place_kept] using wellFormed.unique
  · intro entry member
    rw [entries] at member
    obtain ⟨earlier, present, rfl⟩ := List.mem_map.mp member
    obtain ⟨notRoot, plain, isDirectory⟩ := wellFormed.inside earlier present
    rw [place_kept]
    exact ⟨notRoot, plain, rewrites.hasDirectory isDirectory⟩

theorem append (wellFormed : tree.WellFormed) (place : Place) (bytes : Bytes) :
    (tree.append place bytes).WellFormed := by
  unfold FileTree.append
  split
  · rename_i content executable stands
    exact wellFormed.replace stands _
  · exact wellFormed

end WellFormed

end CompileDriver.FileTree
