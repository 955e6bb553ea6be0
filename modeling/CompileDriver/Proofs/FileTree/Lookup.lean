import CompileDriver.FileTree.Lookup
import CompileDriver.Proofs.FileTree.Basic

/-!
# Where paths lead

What a look-up finds stands where it says.  A path that leads to an entry leads to the same
place in every tree with the same ways, that is, after files have come, changed or gone,
and directories have come besides.

The path of a place leads there, step by step through the directories on the way.
-/

namespace CompileDriver.FileTree

/-- The place that a path leads to. -/
def Target.place : Target → Place
  | .found place _ => place
  | .missing parent name => parent ++ [name]

/-- What a target says about a tree is true.  A directory that is gone can still be the
current one. -/
def Target.IsTrue (tree : FileTree) : Target → Prop
  | .found place node => (tree.get? place).getD Node.openDirectory = node
  | .missing parent name => tree.get? (parent ++ [name]) = none

/-- The walk ended at the same place, or at the same link. -/
def Walk.Alike : Walk → Walk → Prop
  | .done first, .done second => second.place = first.place
  | first, second => first = second

/-! ## Targets tell the truth -/

section

variable {tree : FileTree} {purpose : Purpose}

theorem isTrue_of_walk {asDirectory : Bool} {place : Place} {names : List Name} {target : Target}
    (walked : walk tree purpose asDirectory place names = .ok (.done target)) :
    target.IsTrue tree := by
  fun_induction walk tree purpose asDirectory place names with
  | case1 place =>
      cases walked
      rfl
  | case2 _ _ ih => exact ih walked
  | case3 _ _ _ ih => exact ih walked
  | case6 _ _ _ _ _ isFree =>
      cases walked
      exact isFree
  | case8 _ _ _ _ _ _ _ _ _ _ ih => exact ih walked
  | case9 _ _ _ _ _ _ _ _ found =>
      cases walked
      simp [Target.IsTrue, found]
  | case11 _ _ _ _ _ _ _ node _ _ found =>
      cases walked
      simp [Target.IsTrue, found]
  | case4 | case5 | case7 | case10 | case12 => cases walked

theorem isTrue_of_follow {asDirectory : Bool} {budget : Nat} {place : Place} {names : List Name}
    {target : Target} (followed : follow tree purpose asDirectory budget place names = .ok target) :
    target.IsTrue tree := by
  fun_induction follow tree purpose asDirectory budget place names with
  | case1 => cases followed
  | case2 _ _ _ _ reached walked =>
      cases followed
      exact isTrue_of_walk walked
  | case3 => cases followed
  | case4 _ _ _ _ _ _ _ _ ih => exact ih followed

theorem isTrue_of_lookup {current : Place} {path : Path} {target : Target}
    (found : tree.lookup current path purpose = .ok target) : target.IsTrue tree := by
  unfold lookup at found
  split at found
  · cases found
  · exact isTrue_of_follow found

theorem lookup_of_entry {current place : Place} {path : Path} {node : Node}
    (found : tree.entry current path purpose = .ok (place, node)) :
    tree.lookup current path purpose = .ok (.found place node) := by
  unfold entry at found
  split at found
  · rename_i target looked
    cases target with
    | missing parent name => cases found
    | found here standing =>
        cases found
        exact looked
  · cases found

/-- A file that is found stands there. -/
theorem get?_of_entry {current place : Place} {path : Path} {content : Bytes} {executable : Bool}
    (found : tree.entry current path purpose = .ok (place, .file content executable)) :
    tree.get? place = some (.file content executable) := by
  have isTrue := isTrue_of_lookup (lookup_of_entry found)
  unfold Target.IsTrue at isTrue
  cases stands : tree.get? place with
  | none => simp [stands, Node.openDirectory] at isTrue
  | some node => simpa [stands] using isTrue

end

/-! ## Trees with the same ways -/

/-- The second tree has the ways of the first one: whatever is no file is as it was, and
what has come besides is a file or a directory. -/
def SameWays (base tree : FileTree) : Prop :=
  ∀ place, tree.get? place = base.get? place ∨
    base.IsLoose place ∧ (tree.IsLoose place ∨ tree.hasDirectory place = true)

section

variable {base tree : FileTree} {purpose : Purpose}

/-- What stands at a place that is loose in a tree with the same ways. -/
theorem SameWays.cases (ways : SameWays base tree) {place : Place} (loose : base.IsLoose place) :
    tree.get? place = none ∨
      (∃ content executable, tree.get? place = some (.file content executable)) ∨
      ∃ readable writable, tree.get? place = some (.directory readable writable) := by
  have either : tree.IsLoose place ∨ tree.hasDirectory place = true := by
    rcases ways place with same | ⟨-, either⟩
    · exact .inl (loose.of_same same)
    · exact either
  cases found : tree.get? place with
  | none => exact .inl rfl
  | some node =>
      rcases either with looseToo | isDirectory
      · obtain ⟨content, executable, rfl⟩ := looseToo.eq_file found
        exact .inr (.inl ⟨content, executable, rfl⟩)
      · rw [hasDirectory, found] at isDirectory
        cases node with
        | directory readable writable => exact .inr (.inr ⟨readable, writable, rfl⟩)
        | _ => cases isDirectory

theorem SameWays.get?_eq (ways : SameWays base tree) {place : Place}
    (notLoose : ¬ base.IsLoose place) : tree.get? place = base.get? place := by
  rcases ways place with same | ⟨loose, -⟩
  · exact same
  · exact absurd loose notLoose

/-- Whatever is no file stands where it stood. -/
theorem SameWays.get?_of_not_file (ways : SameWays base tree) {place : Place} {node : Node}
    (found : base.get? place = some node)
    (notFile : ∀ content executable, node ≠ .file content executable) :
    tree.get? place = some node := by
  have notLoose : ¬ base.IsLoose place := by
    intro loose
    obtain ⟨content, executable, isFile⟩ := loose.eq_file found
    exact notFile content executable isFile
  rw [ways.get?_eq notLoose, found]

/-- A name that is loose is the end of a path that is followed to create something. -/
theorem walk_last (ways : SameWays base tree) (purpose : Purpose) {asDirectory : Bool}
    {place : Place} {segment : Name} (notDot : segment ≠ [Bytes.dot])
    (notParent : segment ≠ [Bytes.dot, Bytes.dot])
    (short : ¬ segment.length > longestName) (loose : base.IsLoose (place ++ [segment]))
    (plain : asDirectory = false) :
    ∃ target, walk tree purpose asDirectory place [segment] = .ok (.done target) ∧
      target.place = place ++ [segment] := by
  subst plain
  rcases ways.cases loose with isFree | ⟨content, executable, found⟩ | ⟨readable, writable, found⟩
  · exact ⟨.missing place segment, by simp [walk, notDot, notParent, short, isFree], rfl⟩
  · exact ⟨.found (place ++ [segment]) (.file content executable),
      by simp [walk, notDot, notParent, short, found], rfl⟩
  · exact ⟨.found (place ++ [segment]) (.directory readable writable),
      by simp [walk, notDot, notParent, short, found], rfl⟩

/-- A walk to an entry, or to where something can be created, ends at the same place in a
tree with the same ways. -/
theorem walk_alike (ways : SameWays base tree) {asDirectory : Bool} {place : Place}
    {names : List Name} {walked : Walk}
    (reached : walk base purpose asDirectory place names = .ok walked)
    (settled : purpose = .create ∨ ∀ parent name, walked ≠ .done (.missing parent name)) :
    ∃ other, walk tree purpose asDirectory place names = .ok other ∧ walked.Alike other := by
  fun_induction walk base purpose asDirectory place names with
  | case1 place =>
      cases reached
      exact ⟨_, rfl, rfl⟩
  | case2 _ _ ih =>
      rw [walk, if_pos rfl]
      exact ih reached
  | case3 _ _ notDot ih =>
      rw [walk, if_neg notDot, if_pos rfl]
      exact ih reached
  | case6 place segment notDot notParent short isFree notSlash =>
      cases reached
      have create : purpose = .create := by
        rcases settled with create | notMissing
        · exact create
        · exact absurd rfl (notMissing place segment)
      have plain : asDirectory = false := by simpa [create] using notSlash
      obtain ⟨target, walked, same⟩ :=
        walk_last ways purpose notDot notParent short (.of_free isFree) plain
      exact ⟨.done target, walked, same⟩
  | case8 place segment rest notDot notParent notSlash short readable writable found ih =>
      rw [walk, if_neg notDot, if_neg notParent, if_neg notSlash, if_neg short,
        ways.get?_of_not_file found (by simp)]
      exact ih reached
  | case9 place segment rest notDot notParent notSlash short target found named =>
      rw [walk, if_neg notDot, if_neg notParent, if_neg notSlash, if_neg short,
        ways.get?_of_not_file found (by simp)]
      cases reached
      exact ⟨_, if_pos named, rfl⟩
  | case10 place segment rest notDot notParent notSlash short target found notNamed =>
      rw [walk, if_neg notDot, if_neg notParent, if_neg notSlash, if_neg short,
        ways.get?_of_not_file found (by simp)]
      cases reached
      exact ⟨_, if_neg notNamed, rfl⟩
  | case11 place segment rest notDot notParent notSlash short node notDirectory notLink found
      last =>
      cases reached
      obtain ⟨rfl, plain⟩ : rest = [] ∧ asDirectory = false := by simpa using last
      by_cases loose : base.IsLoose (place ++ [segment])
      · obtain ⟨target, walked, same⟩ :=
          walk_last ways purpose notDot notParent short loose plain
        exact ⟨.done target, walked, same⟩
      · rw [walk, if_neg notDot, if_neg notParent, if_neg notSlash, if_neg short,
          ways.get?_eq loose, found]
        cases node with
        | directory readable writable => exact absurd rfl (notDirectory readable writable)
        | link target => exact absurd rfl (notLink target)
        | file | fifo | nullDevice | zeroDevice => exact ⟨_, if_pos last, rfl⟩
  | case4 | case5 | case7 | case12 => cases reached

theorem follow_alike (ways : SameWays base tree) {asDirectory : Bool} {budget : Nat} {place : Place}
    {names : List Name} {target : Target}
    (reached : follow base purpose asDirectory budget place names = .ok target)
    (settled : purpose = .create ∨ ∀ parent name, target ≠ .missing parent name) :
    ∃ other, follow tree purpose asDirectory budget place names = .ok other ∧
      other.place = target.place := by
  fun_induction follow base purpose asDirectory budget place names with
  | case1 | case3 => cases reached
  | case2 asDirectory budget place names ended walked =>
      cases reached
      have settledWalk : purpose = .create ∨
          ∀ parent name, Walk.done target ≠ .done (.missing parent name) :=
        settled.imp_right fun known parent name same => known parent name (Walk.done.inj same)
      obtain ⟨_ | _, walkedToo, same⟩ := walk_alike ways walked settledWalk
      · rw [follow, walkedToo]
        exact ⟨_, rfl, same⟩
      · cases same
  | case4 asDirectory place names here link rest walked budget ih =>
      obtain ⟨other, walkedToo, same⟩ := walk_alike ways walked (.inr nofun)
      have isLink : other = .link here link rest := by
        cases other with
        | done _ => cases same
        | link _ _ _ => exact same.symm
      rw [follow, walkedToo, isLink]
      exact ih reached

theorem lookup_alike (ways : SameWays base tree) {current : Place} {path : Path} {target : Target}
    (found : base.lookup current path purpose = .ok target)
    (settled : purpose = .create ∨ ∀ parent name, target ≠ .missing parent name) :
    ∃ other, tree.lookup current path purpose = .ok other ∧ other.place = target.place := by
  unfold lookup at found ⊢
  split at found
  · cases found
  · exact follow_alike ways found settled

/-- A path leads to the same entry, as long as that is the same. -/
theorem entry_alike (ways : SameWays base tree) {current place : Place} {path : Path} {node : Node}
    (found : base.entry current path purpose = .ok (place, node))
    (kept : tree.get? place = base.get? place) (stands : base.get? place ≠ none) :
    tree.entry current path purpose = .ok (place, node) := by
  have looked := lookup_of_entry found
  obtain ⟨other, lookedToo, same⟩ := lookup_alike ways looked (.inr nofun)
  have told := isTrue_of_lookup looked
  have toldToo := isTrue_of_lookup lookedToo
  rw [entry, lookedToo]
  cases other with
  | missing parent name =>
      rw [Target.IsTrue, show parent ++ [name] = place from same, kept] at toldToo
      exact absurd toldToo stands
  | found there standing =>
      obtain rfl : there = place := same
      rw [Target.IsTrue, kept] at toldToo
      exact congrArg (fun node => Except.ok (there, node)) (toldToo.symm.trans told)

end

/-! ## Paths of places -/

/-- Splitting at a separator that stands between two parts. -/
theorem splitAt_append (separator : UInt8) (first second : Bytes) :
    Bytes.splitAt separator (first ++ separator :: second) =
      Bytes.splitAt separator first ++ Bytes.splitAt separator second := by
  have nonempty (bytes : Bytes) : Bytes.splitAt separator bytes ≠ [] := by
    cases bytes with
    | nil => simp [Bytes.splitAt]
    | cons byte rest =>
        simp only [Bytes.splitAt, List.foldr_cons]
        split
        · simp
        · split <;> simp
  induction first with
  | nil => simp [Bytes.splitAt]
  | cons byte rest ih =>
      simp only [Bytes.splitAt, List.cons_append, List.foldr_cons] at ih nonempty ⊢
      rw [ih]
      by_cases same : byte = separator
      · simp [same]
      · obtain ⟨piece, pieces, pieced⟩ := List.exists_cons_of_ne_nil (nonempty rest)
        simp [same, pieced]

theorem splitAt_of_not_mem {separator : UInt8} {bytes : Bytes} (absent : separator ∉ bytes) :
    Bytes.splitAt separator bytes = [bytes] := by
  induction bytes with
  | nil => rfl
  | cons byte rest ih =>
      have other : byte ≠ separator := fun same => absent (same ▸ List.mem_cons_self)
      have known := ih fun member => absent (List.mem_cons_of_mem byte member)
      simp only [Bytes.splitAt, List.foldr_cons] at known ⊢
      simp [other, known]

theorem segments_append (first second : Path) :
    segments (first ++ Bytes.slash :: second) = segments first ++ segments second := by
  simp [segments, splitAt_append]

/-- A text without slashes is one segment, or none when it is empty. -/
theorem segments_name {name : Name} (absent : Bytes.slash ∉ name) :
    segments name = if name = [] then [] else [name] := by
  rw [segments, splitAt_of_not_mem absent]
  by_cases empty : name = [] <;> simp [empty]

/-- The path of a place has its names as segments. -/
theorem segments_path {place : Place} (plain : ∀ name ∈ place, Name.IsPlain name) :
    segments place.path = place := by
  have joined : segments (place.flatMap fun name => Bytes.slash :: name) = place := by
    induction place using List.reverseRecOn with
    | nil => rfl
    | append_singleton front name ih =>
        obtain ⟨nonempty, absent, -⟩ := plain name (by simp)
        have known := ih fun other member => plain other (by simp [member])
        rw [List.flatMap_append, List.flatMap_singleton, segments_append, known,
          segments_name absent, if_neg nonempty]
  unfold Place.path
  split
  · rename_i isRoot
    subst isRoot
    rfl
  · exact joined

theorem isAbsolute_of_not_mem {name : Name} (absent : Bytes.slash ∉ name) :
    Path.isAbsolute name = false := by
  cases name with
  | nil => rfl
  | cons byte rest =>
      have other : byte ≠ Bytes.slash := fun same => absent (same ▸ List.mem_cons_self)
      simpa [Path.isAbsolute] using other

/-- Joining a name to a path adds a segment. -/
theorem segments_join (base : Path) {name : Name} (absent : Bytes.slash ∉ name) :
    segments (Path.join base name) = segments base ++ segments name := by
  unfold Path.join
  rw [isAbsolute_of_not_mem absent]
  by_cases empty : base = []
  · simp [empty, segments, Bytes.splitAt]
  · by_cases closed : base.getLast? = some Bytes.slash
    · obtain ⟨front, rfl⟩ := List.getLast?_eq_some_iff.mp closed
      have front_only : segments (front ++ [Bytes.slash]) = segments front := by
        rw [segments_append front []]
        exact List.append_nil _
      rw [if_neg Bool.false_ne_true, if_pos (.inr closed), front_only, List.append_assoc]
      exact segments_append front name
    · simp [empty, closed, segments_append]

theorem isAbsolute_path (place : Place) (rest : Path) :
    Path.isAbsolute (place.path ++ rest) = true := by
  cases place <;> simp [Place.path, Path.isAbsolute]

/-- The path of a place does not end in a slash, unless it is the root. -/
theorem join_path (front : Place) {last : Name} (plain : Name.IsPlain last) {name : Name}
    (absent : Bytes.slash ∉ name) :
    Path.join (Place.path (front ++ [last])) name =
      Place.path (front ++ [last]) ++ Bytes.slash :: name := by
  have notClosed : (Place.path (front ++ [last])).getLast? ≠ some Bytes.slash := by
    obtain ⟨nonempty, absentLast, -⟩ := plain
    obtain ⟨rest, byte, rfl⟩ := (List.eq_nil_or_concat last).resolve_left nonempty
    intro closed
    have same : byte = Bytes.slash := by
      simpa [Place.path, List.getLast?_append, List.getLast?_cons] using closed
    exact absentLast (by simp [same])
  have nonempty : Place.path (front ++ [last]) ≠ [] := by
    intro empty
    have starts := isAbsolute_path (front ++ [last]) []
    rw [empty] at starts
    cases starts
  rw [Path.join, isAbsolute_of_not_mem absent, if_neg Bool.false_ne_true, if_neg]
  rintro (empty | closed)
  · exact nonempty empty
  · exact notClosed closed

section

variable {tree : FileTree} {purpose : Purpose}

/-- A walk through directories that are entered by their names. -/
theorem walk_along {asDirectory : Bool} {place : Place} {names rest : List Name} {walked : Walk}
    (plain : ∀ name ∈ names, Name.IsPlain name)
    (directories : ∀ front, front <+: names → tree.hasDirectory (place ++ front) = true)
    (reached : walk tree purpose asDirectory place (names ++ rest) = .ok walked) :
    walk tree purpose asDirectory (place ++ names) rest = .ok walked := by
  induction names generalizing place with
  | nil => simpa using reached
  | cons name names ih =>
      obtain ⟨-, -, notDot, notParent⟩ := plain name List.mem_cons_self
      have entered : tree.hasDirectory (place ++ [name]) = true :=
        directories [name] ⟨names, rfl⟩
      unfold hasDirectory at entered
      rw [List.cons_append, walk, if_neg notDot, if_neg notParent] at reached
      split at reached
      · cases reached
      · split at reached
        · cases reached
        · split at reached
          · rename_i isFree
            simp [isFree] at entered
          · have further := ih (fun other member => plain other (List.mem_cons_of_mem name member))
              (fun front isPrefix => by
                simpa using directories (name :: front) (List.cons_prefix_cons.mpr ⟨rfl, isPrefix⟩))
              reached
            simpa using further
          · rename_i found
            simp [found, Node.isDirectory] at entered
          · rename_i node notDirectory _ found
            rw [found] at entered
            cases node with
            | directory readable writable => exact absurd rfl (notDirectory readable writable)
            | _ => cases entered

/-- A last step from a directory to a name that is no link. -/
theorem walk_inside {asDirectory : Bool} {place : Place} {name : Name} {walked : Walk}
    (directories : ∀ front, front <+: place → tree.hasDirectory front = true)
    (notLink : ∀ target, tree.get? (place ++ [name]) ≠ some (.link target))
    (reached : walk tree purpose asDirectory place [name] = .ok walked) :
    ∃ last, walked = .done last ∧
      (last.place = place ++ [name] ∨ tree.hasDirectory last.place = true) := by
  rw [walk] at reached
  split at reached
  · cases reached
    exact ⟨_, rfl, .inr (directories place (List.prefix_refl place))⟩
  split at reached
  · cases reached
    exact ⟨_, rfl, .inr (directories place.dropLast (List.dropLast_prefix place))⟩
  split at reached
  · cases reached
  split at reached
  · cases reached
  split at reached
  · cases reached
    exact ⟨_, rfl, .inl rfl⟩
  · cases reached
    exact ⟨_, rfl, .inl rfl⟩
  · rename_i target found
    exact absurd found (notLink target)
  · split at reached
    · cases reached
      exact ⟨_, rfl, .inl rfl⟩
    · cases reached

/-- The path of a directory with one more segment leads to that name in the directory,
or to another directory, as long as the name is no link. -/
theorem lookup_inside {current place : Place} {name : Name} {target : Target}
    (plain : ∀ name ∈ place, Name.IsPlain name)
    (directories : ∀ front, front <+: place → tree.hasDirectory front = true)
    (absent : Bytes.slash ∉ name)
    (notLink : ∀ target, tree.get? (place ++ [name]) ≠ some (.link target))
    (found : tree.lookup current (place.path ++ Bytes.slash :: name) purpose = .ok target) :
    target.place = place ++ [name] ∨ tree.hasDirectory target.place = true := by
  have ended {asDirectory : Bool} {walked : Walk}
      (reached : walk tree purpose asDirectory place (segments name) = .ok walked) :
      ∃ last, walked = .done last ∧
        (last.place = place ++ [name] ∨ tree.hasDirectory last.place = true) := by
    rw [segments_name absent] at reached
    split at reached
    · cases reached
      exact ⟨_, rfl, .inr (directories place (List.prefix_refl place))⟩
    · exact walk_inside directories notLink reached
  unfold lookup at found
  split at found
  · cases found
  · rw [lookupUnbounded, isAbsolute_path, if_pos rfl, segments_append, segments_path plain,
      follow] at found
    split at found
    · cases found
    · rename_i reached
      obtain ⟨_, same, known⟩ := ended (walk_along plain directories reached)
      cases same
      cases found
      exact known
    · rename_i reached
      obtain ⟨_, same, -⟩ := ended (walk_along plain directories reached)
      cases same

end

end CompileDriver.FileTree
