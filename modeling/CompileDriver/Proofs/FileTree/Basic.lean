import CompileDriver.FileTree.Basic
import Mathlib.Data.List.Induction

/-!
# What stands where after a change

The operations on places, by what stands at every place afterwards.  The root is not
affected by any of them.

`Rewrites` relates two trees between which only files have come, changed or gone, and
only at certain places.  In a well-formed tree a place has one entry, which lies in a
directory.
-/

namespace CompileDriver

/-- Whether a name is one that an entry can have. -/
def Name.IsPlain (name : Name) : Prop :=
  name ≠ [] ∧ Bytes.slash ∉ name ∧ name ≠ [Bytes.dot] ∧ name ≠ [Bytes.dot, Bytes.dot]

instance (name : Name) : Decidable (Name.IsPlain name) :=
  inferInstanceAs (Decidable (_ ∧ _))

namespace FileTree

/-! ## Single operations -/

/-- Entries that are kept or dropped by their places. -/
theorem lookup_filter_place (entries : List (Place × Node)) (keep : Place → Bool) (place : Place) :
    (entries.filter fun entry => keep entry.1).lookup place =
      if keep place then entries.lookup place else none := by
  induction entries with
  | nil => simp
  | cons entry rest ih =>
      obtain ⟨here, node⟩ := entry
      by_cases same : place = here
      · subst same
        by_cases kept : keep place
        · simp [kept]
        · simp [kept, ih]
      · have other : (place == here) = false := by simpa using same
        by_cases kept : keep here
        · simp [kept, List.lookup_cons, other, ih]
        · simp [kept, List.lookup_cons, other, ih]

theorem lookup_replace (entries : List (Place × Node)) (place other : Place) (node : Node) :
    (entries.map fun entry => if entry.1 = place then (place, node) else entry).lookup other =
      if other = place then (entries.lookup other).map fun _ => node
      else entries.lookup other := by
  induction entries with
  | nil => simp
  | cons entry rest ih =>
      obtain ⟨here, standing⟩ := entry
      by_cases isPlace : here = place
      · subst isPlace
        by_cases same : other = here
        · simp [same]
        · have apart : (other == here) = false := by simpa using same
          simp [List.lookup_cons, apart, ih, same]
      · by_cases same : other = here
        · subst same
          simp [isPlace]
        · have apart : (other == here) = false := by simpa using same
          simp [List.lookup_cons, apart, ih, isPlace]

variable (tree : FileTree) (place other : Place)

@[simp]
theorem get?_root : tree.get? [] = some Node.openDirectory :=
  rfl

theorem get?_of_ne_root {place : Place} (below : place ≠ []) :
    tree.get? place = tree.entries.lookup place :=
  if_neg below

theorem get?_insert {place : Place} (below : place ≠ []) (node : Node) :
    (tree.insert place node).get? other =
      if other = place then some node else tree.get? other := by
  by_cases isRoot : other = []
  · subst isRoot
    simp [Ne.symm below]
  · rw [get?_of_ne_root _ isRoot, get?_of_ne_root _ isRoot]
    unfold insert
    by_cases taken : (tree.entries.lookup place).isSome
    · rw [if_pos taken]
      simp only [lookup_replace]
      split
      · rename_i same
        subst same
        obtain ⟨standing, found⟩ := Option.isSome_iff_exists.mp taken
        simp [found]
      · rfl
    · rw [if_neg taken]
      have isFree : tree.entries.lookup place = none := Option.not_isSome_iff_eq_none.mp taken
      rw [List.lookup_append]
      by_cases same : other = place
      · subst same
        simp [isFree]
      · have apart : (other == place) = false := by simpa using same
        simp [same, List.lookup_cons, apart]

theorem get?_erase :
    (tree.erase place).get? other =
      if other = place ∧ other ≠ [] then none else tree.get? other := by
  by_cases isRoot : other = []
  · simp [isRoot]
  · rw [get?_of_ne_root _ isRoot, get?_of_ne_root _ isRoot]
    have filtered : (tree.erase place).entries.lookup other =
        if decide (other ≠ place) then tree.entries.lookup other else none :=
      lookup_filter_place tree.entries (fun here => decide (here ≠ place)) other
    rw [filtered]
    by_cases same : other = place
    · simp [same, show place ≠ [] from same ▸ isRoot]
    · simp [same]

theorem get?_eraseAll :
    (tree.eraseAll place).get? other =
      if place <+: other ∧ other ≠ [] then none else tree.get? other := by
  by_cases isRoot : other = []
  · simp [isRoot]
  · rw [get?_of_ne_root _ isRoot, get?_of_ne_root _ isRoot]
    have filtered : (tree.eraseAll place).entries.lookup other =
        if !place.isPrefixOf other then tree.entries.lookup other else none :=
      lookup_filter_place tree.entries (fun here => !place.isPrefixOf here) other
    rw [filtered]
    by_cases inside : place <+: other
    · simp [inside, isRoot, List.isPrefixOf_iff_prefix.mpr inside]
    · have outside : place.isPrefixOf other = false := by
        rw [← Bool.not_eq_true]
        exact fun isPrefix => inside (List.isPrefixOf_iff_prefix.mp isPrefix)
      simp [inside, outside]

/-! ## Rewriting files -/

/-- Whether a file can be put at a place: nothing stands there, or a file. -/
def IsLoose (tree : FileTree) (place : Place) : Prop :=
  ∀ node, tree.get? place = some node → node.isFile = true

theorem IsLoose.of_free {tree : FileTree} {place : Place} (isFree : tree.get? place = none) :
    tree.IsLoose place := by
  intro node found
  rw [isFree] at found
  cases found

theorem IsLoose.of_file {tree : FileTree} {place : Place} {content : Bytes} {executable : Bool}
    (found : tree.get? place = some (.file content executable)) : tree.IsLoose place := by
  intro node same
  rw [found] at same
  cases same
  rfl

theorem IsLoose.of_same {before after : FileTree} {place : Place} (loose : before.IsLoose place)
    (same : after.get? place = before.get? place) : after.IsLoose place := by
  intro node found
  exact loose node (same ▸ found)

/-- What stands at a loose place is a file. -/
theorem IsLoose.eq_file {tree : FileTree} {place : Place} (loose : tree.IsLoose place) {node : Node}
    (found : tree.get? place = some node) :
    ∃ content executable, node = .file content executable := by
  have isFile := loose node found
  cases node with
  | file content executable => exact ⟨content, executable, rfl⟩
  | _ => cases isFile

theorem IsLoose.ne_root {tree : FileTree} {place : Place} (loose : tree.IsLoose place) :
    place ≠ [] := by
  rintro rfl
  exact nomatch loose _ tree.get?_root

/-- No directory stands at a loose place. -/
theorem IsLoose.not_hasDirectory {tree : FileTree} {place : Place} (loose : tree.IsLoose place) :
    tree.hasDirectory place = false := by
  unfold hasDirectory
  cases found : tree.get? place with
  | none => rfl
  | some node =>
      obtain ⟨content, executable, rfl⟩ := loose.eq_file found
      rfl

/-- From one tree to another only files have come, changed or gone, at places that may be
changed. -/
def Rewrites (may : Place → Prop) (before after : FileTree) : Prop :=
  ∀ place, after.get? place = before.get? place ∨
    may place ∧ before.IsLoose place ∧ after.IsLoose place

namespace Rewrites

variable {may : Place → Prop} {first second third : FileTree}

theorem refl (may : Place → Prop) (tree : FileTree) : Rewrites may tree tree :=
  fun _ => .inl rfl

theorem trans (start : Rewrites may first second) (rest : Rewrites may second third) :
    Rewrites may first third := by
  intro place
  rcases start place with early | ⟨allowed, looseFirst, looseSecond⟩
  · rcases rest place with late | ⟨allowed, looseSecond, looseThird⟩
    · exact .inl (late.trans early)
    · exact .inr ⟨allowed, looseSecond.of_same early.symm, looseThird⟩
  · rcases rest place with late | ⟨-, -, looseThird⟩
    · exact .inr ⟨allowed, looseFirst, looseSecond.of_same late⟩
    · exact .inr ⟨allowed, looseFirst, looseThird⟩

theorem weaken {might : Place → Prop} (rewrites : Rewrites may first second)
    (implies : ∀ place, may place → might place) : Rewrites might first second := by
  intro place
  rcases rewrites place with same | ⟨allowed, loose⟩
  · exact .inl same
  · exact .inr ⟨implies place allowed, loose⟩

/-- A loose place stays one. -/
theorem isLoose (rewrites : Rewrites may first second) {place : Place}
    (loose : first.IsLoose place) : second.IsLoose place := by
  rcases rewrites place with same | ⟨-, -, looseToo⟩
  · exact loose.of_same same
  · exact looseToo

/-- A directory stays one. -/
theorem hasDirectory (rewrites : Rewrites may first second) {place : Place}
    (isDirectory : first.hasDirectory place = true) : second.hasDirectory place = true := by
  rcases rewrites place with same | ⟨-, loose, -⟩
  · unfold FileTree.hasDirectory at isDirectory ⊢
    rw [same]
    exact isDirectory
  · rw [loose.not_hasDirectory] at isDirectory
    cases isDirectory

end Rewrites

theorem rewrites_insert {tree : FileTree} {place : Place} (loose : tree.IsLoose place)
    (content : Bytes) (executable : Bool) :
    Rewrites (· = place) tree (tree.insert place (.file content executable)) := by
  intro other
  rw [tree.get?_insert other loose.ne_root]
  by_cases same : other = place
  · subst same
    have found : (tree.insert other (.file content executable)).get? other =
        some (.file content executable) := by
      rw [tree.get?_insert other loose.ne_root, if_pos rfl]
    exact .inr ⟨rfl, loose, .of_file found⟩
  · exact .inl (if_neg same)

theorem rewrites_erase {tree : FileTree} {place : Place} (loose : tree.IsLoose place) :
    Rewrites (· = place) tree (tree.erase place) := by
  intro other
  rw [tree.get?_erase place other]
  by_cases same : other = place
  · subst same
    refine .inr ⟨rfl, loose, .of_free ?_⟩
    rw [tree.get?_erase other other, if_pos ⟨rfl, loose.ne_root⟩]
  · exact .inl (if_neg fun both => same both.1)

/-! ## Well-formed trees -/

/-- Every place has one entry, whose name is plain and whose parent is a directory. -/
structure WellFormed (tree : FileTree) : Prop where
  unique : (tree.entries.map Prod.fst).Nodup
  inside : ∀ entry ∈ tree.entries, entry.1 ≠ [] ∧ Name.IsPlain (entry.1.getLastD []) ∧
    tree.hasDirectory entry.1.dropLast = true

/-- Values of distinct keys are found. -/
theorem lookup_of_mem {entries : List (Place × Node)} (unique : (entries.map Prod.fst).Nodup)
    {place : Place} {node : Node} (member : (place, node) ∈ entries) :
    entries.lookup place = some node := by
  induction entries with
  | nil => cases member
  | cons entry rest ih =>
      obtain ⟨absent, uniqueRest⟩ := List.nodup_cons.mp unique
      rcases List.mem_cons.mp member with rfl | later
      · simp
      · have other : (place == entry.1) = false := by
          rw [beq_eq_false_iff_ne]
          intro same
          exact absent (List.mem_map.mpr ⟨_, later, same⟩)
        rw [List.lookup_cons, other]
        exact ih uniqueRest later

theorem mem_of_lookup {entries : List (Place × Node)} {place : Place} {node : Node}
    (found : entries.lookup place = some node) : (place, node) ∈ entries := by
  induction entries with
  | nil => cases found
  | cons entry rest ih =>
      rw [List.lookup_cons] at found
      split at found
      · rename_i same
        cases found
        rw [show place = entry.1 by simpa using same]
        exact List.mem_cons_self
      · exact List.mem_cons_of_mem _ (ih found)

namespace WellFormed

variable {tree : FileTree}

theorem get?_of_mem (wellFormed : tree.WellFormed) {place : Place} {node : Node}
    (member : (place, node) ∈ tree.entries) : tree.get? place = some node := by
  rw [get?_of_ne_root tree (wellFormed.inside _ member).1]
  exact lookup_of_mem wellFormed.unique member

/-- Where something stands, the parent is a directory and the name is plain. -/
theorem parent (wellFormed : tree.WellFormed) {front : Place} {name : Name}
    (stands : tree.get? (front ++ [name]) ≠ none) :
    Name.IsPlain name ∧ tree.hasDirectory front = true := by
  obtain ⟨node, found⟩ := Option.ne_none_iff_exists'.mp stands
  rw [get?_of_ne_root tree (by simp)] at found
  obtain ⟨-, plain, isDirectory⟩ := wellFormed.inside _ (mem_of_lookup found)
  simpa using And.intro plain isDirectory

theorem not_hasDirectory_of_free {place : Place} (isFree : tree.get? place = none) :
    ¬ tree.hasDirectory place = true := by
  simp [hasDirectory, isFree]
theorem get?_ne_none_of_hasDirectory {place : Place}
    (isDirectory : tree.hasDirectory place = true) :
    tree.get? place ≠ none :=
  fun isFree => not_hasDirectory_of_free isFree isDirectory

/-- Everything above a place where something stands is a directory. -/
theorem above (wellFormed : tree.WellFormed) {front rest : Place} (below : rest ≠ [])
    (stands : tree.get? (front ++ rest) ≠ none) : tree.hasDirectory front = true := by
  induction rest using List.reverseRecOn with
  | nil => exact absurd rfl below
  | append_singleton rest name ih =>
      rw [← List.append_assoc] at stands
      obtain ⟨-, isDirectory⟩ := wellFormed.parent stands
      by_cases direct : rest = []
      · simpa [direct] using isDirectory
      · exact ih direct (get?_ne_none_of_hasDirectory isDirectory)

/-- Everything above a directory is a directory. -/
theorem above_directory (wellFormed : tree.WellFormed) {front place : Place}
    (isPrefix : front <+: place) (isDirectory : tree.hasDirectory place = true) :
    tree.hasDirectory front = true := by
  obtain ⟨rest, rfl⟩ := isPrefix
  by_cases direct : rest = []
  · simpa [direct] using isDirectory
  · exact wellFormed.above direct (get?_ne_none_of_hasDirectory isDirectory)

/-- Nothing stands below what is no directory. -/
theorem nothing_below (wellFormed : tree.WellFormed) {place other : Place}
    (notDirectory : ¬ tree.hasDirectory place = true) (inside : place <+: other)
    (below : other ≠ place) : tree.get? other = none := by
  obtain ⟨rest, rfl⟩ := inside
  have direct : rest ≠ [] := fun empty => below (by rw [empty, List.append_nil])
  by_contra present
  exact notDirectory (wellFormed.above direct present)

/-- The names on the way to an entry are plain. -/
theorem plain (wellFormed : tree.WellFormed) {place : Place} (stands : tree.get? place ≠ none) :
    ∀ name ∈ place, Name.IsPlain name := by
  induction place using List.reverseRecOn with
  | nil => simp
  | append_singleton front name ih =>
      obtain ⟨isPlain, isDirectory⟩ := wellFormed.parent stands
      intro other member
      rcases List.mem_append.mp member with inFront | isName
      · exact ih (get?_ne_none_of_hasDirectory isDirectory) other inFront
      · rw [List.mem_singleton.mp isName]
        exact isPlain

end WellFormed

end FileTree

end CompileDriver
