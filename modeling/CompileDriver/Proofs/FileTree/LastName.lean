import CompileDriver.Proofs.FileTree.Lookup
import CompileDriver.Proofs.Path

/-!
# The names that paths end in

A path that names a file ends in the name of that file, so that the name can be read off
the path; links on the way make no difference.  Whether the last link is followed matters
only where a link stands.
-/

namespace CompileDriver

namespace Path

open Bytes (slash dot)

/-- The last segment of a path that does not end in a slash. -/
theorem exists_last {path : Path} (nonempty : path ≠ []) (notClosed : path.getLast? ≠ some slash) :
    ∃ last, last ≠ [] ∧ slash ∉ last ∧ (path = last ∨ ∃ front, path = front ++ slash :: last) := by
  let last := (path.reverse.takeWhile (· != slash)).reverse
  have parts : path = (path.reverse.dropWhile (· != slash)).reverse ++ last := by
    rw [← List.reverse_append, List.takeWhile_append_dropWhile, List.reverse_reverse]
  have absent : slash ∉ last := by
    intro member
    have inside := List.all_takeWhile (p := (· != slash)) (l := path.reverse)
    have kept := List.all_eq_true.mp inside slash (List.mem_reverse.mp member)
    simp at kept
  cases remaining : path.reverse.dropWhile (· != slash) with
  | nil =>
      rw [remaining] at parts
      have whole : path = last := parts
      exact ⟨last, whole ▸ nonempty, absent, .inl whole⟩
  | cons byte front =>
      have isSlash : byte = slash := by
        have stops := List.head?_dropWhile_not (· != slash) path.reverse
        rw [remaining] at stops
        simpa using stops
      rw [remaining, isSlash, List.reverse_cons, List.append_assoc] at parts
      refine ⟨last, ?_, absent, .inr ⟨front.reverse, parts⟩⟩
      intro empty
      rw [empty] at parts
      exact notClosed (by rw [parts]; simp)

/-- The file name of a path that ends in a proper name. -/
theorem fileName_of_last {path : Path} {last : Name} (nonempty : path ≠ [])
    (notClosed : path.getLast? ≠ some slash) (ends : (FileTree.segments path).getLast? = some last)
    (notDot : last ≠ [dot]) (notParent : last ≠ [dot, dot]) : fileName path = some last := by
  obtain ⟨name, named, absent, shape⟩ := exists_last nonempty notClosed
  have isLast : name = last := by
    rcases shape with rfl | ⟨front, rfl⟩
    · rw [FileTree.segments_name absent, if_neg named] at ends
      exact Option.some.inj ends
    · rw [FileTree.segments_append, FileTree.segments_name absent, if_neg named] at ends
      simpa using ends
  subst isLast
  obtain ⟨front, split, begins⟩ : ∃ front, path = front ++ name ∧ AtSegment front := by
    rcases shape with rfl | ⟨front, rfl⟩
    · exact ⟨[], rfl, .inl rfl⟩
    · exact ⟨front ++ [slash], by simp, .inr (by simp)⟩
  exact fileName_eq_some_iff.mpr
    ⟨front, ⟨[], .nil, by simpa using split⟩, begins, absent, named, notDot, notParent⟩

end Path

namespace FileTree

variable {tree : FileTree}

/-! ## Files at the end of a path -/

/-- The last of some segments is a proper name, and the place ends in it. -/
structure EndsIn (names : List Name) (place : Place) (last : Name) : Prop where
  names : names.getLast? = some last
  place : place.getLast? = some last
  notDot : last ≠ [Bytes.dot]
  notParent : last ≠ [Bytes.dot, Bytes.dot]

theorem EndsIn.behind {names : List Name} {place : Place} {last : Name}
    (ends : EndsIn names place last) (front : List Name) : EndsIn (front ++ names) place last where
  names := by rw [List.getLast?_append, ends.names]; rfl
  place := ends.place
  notDot := ends.notDot
  notParent := ends.notParent

theorem hasDirectory_dropLast (wellFormed : tree.WellFormed) {place : Place}
    (isDirectory : tree.hasDirectory place = true) : tree.hasDirectory place.dropLast = true := by
  rcases List.eq_nil_or_concat place with rfl | ⟨front, name, rfl⟩
  · exact isDirectory
  · rw [List.concat_eq_append, List.dropLast_concat]
    exact (wellFormed.parent
      (WellFormed.get?_ne_none_of_hasDirectory (by simpa using isDirectory))).2

theorem isDirectory_of_hasDirectory {place : Place} (isDirectory : tree.hasDirectory place = true) :
    ((tree.get? place).getD Node.openDirectory).isDirectory = true := by
  unfold hasDirectory at isDirectory
  cases found : tree.get? place with
  | none => rfl
  | some node => simpa [found] using isDirectory

section

variable {purpose : Purpose} {asDirectory : Bool}

/-- A walk from a directory that ends at something else has stepped to it by its name. -/
theorem endsIn_of_walk (wellFormed : tree.WellFormed) {place : Place} {names : List Name}
    (start : tree.hasDirectory place = true) {there : Place} {node : Node}
    (notDirectory : node.isDirectory = false)
    (reached : walk tree purpose asDirectory place names = .ok (.done (.found there node))) :
    asDirectory = false ∧ ∃ last, EndsIn names there last := by
  fun_induction walk tree purpose asDirectory place names with
  | case1 place =>
      cases reached
      rw [isDirectory_of_hasDirectory start] at notDirectory
      cases notDirectory
  | case2 place rest ih =>
      obtain ⟨plain, last, ends⟩ := ih start reached
      exact ⟨plain, last, ends.behind [[Bytes.dot]]⟩
  | case3 place rest notDot ih =>
      obtain ⟨plain, last, ends⟩ := ih (hasDirectory_dropLast wellFormed start) reached
      exact ⟨plain, last, ends.behind [[Bytes.dot, Bytes.dot]]⟩
  | case8 place segment rest notDot notParent notSlash short readable writable found ih =>
      have isDirectory : tree.hasDirectory (place ++ [segment]) = true := by
        simp [hasDirectory, found, Node.isDirectory]
      obtain ⟨plain, last, ends⟩ := ih isDirectory reached
      exact ⟨plain, last, ends.behind [segment]⟩
  | case9 place segment rest notDot notParent notSlash short target found named =>
      cases reached
      obtain ⟨⟨rfl, -⟩, rfl⟩ : (rest = [] ∧ purpose = .useLink) ∧ asDirectory = false := by
        simpa using named
      exact ⟨rfl, segment, rfl, by simp, notDot, notParent⟩
  | case11 place segment rest notDot notParent notSlash short node isNode notLink found last =>
      cases reached
      obtain ⟨rfl, rfl⟩ : rest = [] ∧ asDirectory = false := by simpa using last
      exact ⟨rfl, segment, rfl, by simp, notDot, notParent⟩
  | case4 | case5 | case6 | case7 | case10 | case12 => cases reached

/-- A walk from a directory that has to expand a link stops in a directory.  When the link
is the last name, the path ends in a slash or is followed to the end. -/
theorem link_of_walk (wellFormed : tree.WellFormed) {place : Place} {names : List Name}
    (start : tree.hasDirectory place = true) {there : Place} {target : Path} {rest : List Name}
    (reached : walk tree purpose asDirectory place names = .ok (.link there target rest)) :
    tree.hasDirectory there = true ∧ rest <:+ names ∧
      (rest = [] → purpose = .useLink → asDirectory = true) := by
  fun_induction walk tree purpose asDirectory place names with
  | case2 place more ih =>
      obtain ⟨isDirectory, suffix, last⟩ := ih start reached
      exact ⟨isDirectory, suffix.trans (List.suffix_cons _ _), last⟩
  | case3 place more notDot ih =>
      obtain ⟨isDirectory, suffix, last⟩ := ih (hasDirectory_dropLast wellFormed start) reached
      exact ⟨isDirectory, suffix.trans (List.suffix_cons _ _), last⟩
  | case8 place segment more notDot notParent notSlash short readable writable found ih =>
      have entered : tree.hasDirectory (place ++ [segment]) = true := by
        simp [hasDirectory, found, Node.isDirectory]
      obtain ⟨isDirectory, suffix, last⟩ := ih entered reached
      exact ⟨isDirectory, suffix.trans (List.suffix_cons _ _), last⟩
  | case10 place segment more notDot notParent notSlash short link found notNamed =>
      cases reached
      refine ⟨start, List.suffix_cons _ _, ?_⟩
      rintro rfl rfl
      simpa using notNamed
  | case1 | case4 | case5 | case6 | case7 | case9 | case11 | case12 => cases reached

end

/-- The same along links, none of which is the last name. -/
theorem endsIn_of_follow (wellFormed : tree.WellFormed) {asDirectory : Bool} {budget : Nat}
    {place : Place} {names : List Name} (start : tree.hasDirectory place = true) {there : Place}
    {node : Node} (notDirectory : node.isDirectory = false)
    (reached : follow tree .useLink asDirectory budget place names = .ok (.found there node)) :
    asDirectory = false ∧ ∃ last, EndsIn names there last := by
  fun_induction follow tree .useLink asDirectory budget place names with
  | case1 | case3 => cases reached
  | case2 asDirectory budget place names ended walked =>
      cases reached
      exact endsIn_of_walk wellFormed start notDirectory walked
  | case4 asDirectory place names here link rest walked budget ih =>
      obtain ⟨isDirectory, ⟨front, rfl⟩, lastLink⟩ := link_of_walk wellFormed start walked
      have directory : tree.hasDirectory (if Path.isAbsolute link then [] else here) = true := by
        split
        · rfl
        · exact isDirectory
      obtain ⟨plain, last, ends⟩ := ih directory reached
      have plainHere : asDirectory = false := (Bool.or_eq_false_iff.mp plain).1
      have more : rest ≠ [] := by
        intro none
        simp [lastLink none rfl] at plainHere
      refine ⟨plainHere, last, ?_, ends.place, ends.notDot, ends.notParent⟩
      have known := ends.names
      rw [List.getLast?_append, List.getLast?_eq_some_getLast more, Option.some_or] at known ⊢
      exact known

/-- A path that names a file ends in the name of that file. -/
theorem fileName_of_entry (wellFormed : tree.WellFormed) {current place : Place} {path : Path}
    {content : Bytes} {executable : Bool} (here : tree.hasDirectory current = true)
    (named : tree.entry current path .useLink = .ok (place, .file content executable)) :
    Path.fileName path = place.getLast? := by
  have looked := lookup_of_entry named
  unfold lookup at looked
  split at looked
  · cases looked
  · rename_i checked
    have start : tree.hasDirectory (if Path.isAbsolute path then [] else current) = true := by
      split
      · rfl
      · exact here
    obtain ⟨notClosed, last, ends⟩ := endsIn_of_follow wellFormed start rfl looked
    rw [ends.place]
    apply Path.fileName_of_last _ _ ends.names ends.notDot ends.notParent
    · rintro rfl
      cases ends.names
    · simpa [endsInSlash] using notClosed

/-! ## Following the last link -/

/-- Whether the last link is followed makes a difference only where a link ends the walk. -/
theorem walk_useLink {asDirectory : Bool} {place : Place} {names : List Name} {walked : Walk}
    (reached : walk tree .use asDirectory place names = .ok walked) :
    walk tree .useLink asDirectory place names = .ok walked ∨
      ∃ there target, walk tree .useLink asDirectory place names =
        .ok (.done (.found there (.link target))) := by
  induction names generalizing place with
  | nil => exact .inl reached
  | cons segment rest ih =>
      rw [walk] at reached ⊢
      simp only [reduceCtorEq, decide_false, Bool.and_false, Bool.false_eq_true, if_false]
        at reached ⊢
      split
      · rename_i isDot
        rw [if_pos isDot] at reached
        exact ih reached
      rename_i notDot
      rw [if_neg notDot] at reached
      split
      · rename_i isParent
        rw [if_pos isParent] at reached
        exact ih reached
      rename_i notParent
      rw [if_neg notParent] at reached
      split
      · rename_i long
        rw [if_pos long] at reached
        cases reached
      rename_i short
      rw [if_neg short] at reached
      cases found : tree.get? (place ++ [segment]) with
      | none =>
          rw [found] at reached
          exact .inl reached
      | some node =>
          rw [found] at reached
          cases node with
          | directory readable writable => exact ih reached
          | link target =>
              dsimp only
              split
              · exact .inr ⟨_, _, rfl⟩
              · simp at reached
                exact .inl (by rw [reached])
          | file | fifo | nullDevice | zeroDevice => exact .inl reached

theorem follow_useLink {asDirectory : Bool} {budget : Nat} {place : Place} {names : List Name}
    {target : Target} (reached : follow tree .use asDirectory budget place names = .ok target) :
    follow tree .useLink asDirectory budget place names = .ok target ∨
      ∃ there link, follow tree .useLink asDirectory budget place names =
        .ok (.found there (.link link)) := by
  fun_induction follow tree .use asDirectory budget place names with
  | case1 | case3 => cases reached
  | case2 asDirectory budget place names ended walked =>
      cases reached
      rcases walk_useLink walked with same | ⟨there, link, ends⟩
      · left
        rw [follow, same]
      · right
        refine ⟨there, link, ?_⟩
        rw [follow, ends]
  | case4 asDirectory place names here link rest walked budget ih =>
      rcases walk_useLink walked with same | ⟨there, last, ends⟩
      · rw [follow, same]
        exact ih reached
      · right
        refine ⟨there, last, ?_⟩
        rw [follow, ends]

/-- A path that leads to an entry names that entry, or a link. -/
theorem entry_useLink {current place : Place} {path : Path} {node : Node}
    (found : tree.entry current path = .ok (place, node)) :
    tree.entry current path .useLink = .ok (place, node) ∨
      ∃ there link, tree.entry current path .useLink = .ok (there, .link link) := by
  have looked := lookup_of_entry found
  unfold lookup at looked
  unfold entry lookup
  split at looked
  · cases looked
  · rcases follow_useLink looked with same | ⟨there, link, ends⟩
    · left
      rw [lookupUnbounded, same]
      rfl
    · right
      refine ⟨there, link, ?_⟩
      rw [lookupUnbounded, ends]
      rfl

end FileTree

end CompileDriver
