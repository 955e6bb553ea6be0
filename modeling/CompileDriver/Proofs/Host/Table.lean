import CompileDriver.Host.Descriptor
import Mathlib.Data.List.Basic
import Mathlib.Logic.Function.Basic

/-!
# The files of a descriptor table

How the operations on a table change the open file that each number refers to,
and which numbers new descriptors get.  `occupy` and `pointTo` are the two
changes that make a number refer to a file: taking the lowest free number, and
pointing a number at the file of another one.
-/

namespace CompileDriver.DescriptorTable

variable (table : DescriptorTable)

/-! ## Files after a change -/

theorem file?_put (number other : Nat) (descriptor : Descriptor) :
    (table.put number descriptor).file? other =
      if other = number then some descriptor.file else table.file? other := by
  simp only [file?, get?_put]
  split <;> rfl

theorem file?_close (number other : Nat) :
    (table.close number).file? other = if other = number then none else table.file? other := by
  simp only [file?, get?_close]
  split <;> rfl

theorem file?_eq_none_iff (number : Nat) :
    table.file? number = none ↔ table.get? number = none := by
  simp [file?]

theorem file?_of_get? {number : Nat} {descriptor : Descriptor}
    (found : table.get? number = some descriptor) :
    table.file? number = some descriptor.file := by
  simp [file?, found]

theorem get?_of_file? {number : Nat} {file : OpenFile} (found : table.file? number = some file) :
    ∃ descriptor, table.get? number = some descriptor ∧ descriptor.file = file := by
  simpa [file?] using found

theorem refersTo_iff (file : OpenFile) :
    table.refersTo file = true ↔ ∃ number, table.file? number = some file := by
  simp only [refersTo, List.any_eq_true, Option.any_eq_true, decide_eq_true_eq, file?, get?,
    List.getD_eq_getElem?_getD]
  constructor
  · rintro ⟨slot, member, descriptor, rfl, rfl⟩
    obtain ⟨number, inside, found⟩ := List.getElem_of_mem member
    exact ⟨number, by simp [List.getElem?_eq_getElem inside, found]⟩
  · rintro ⟨number, found⟩
    obtain ⟨descriptor, present, rfl⟩ := Option.map_eq_some_iff.mp found
    cases slot : table.slots[number]? with
    | none => simp [slot] at present
    | some entry =>
        refine ⟨entry, List.mem_of_getElem? slot, descriptor, ?_, rfl⟩
        simpa [slot] using present

/-- A file to which no number refers is not referred to. -/
theorem refersTo_eq_false {file : OpenFile} (unused : ∀ number, table.file? number ≠ some file) :
    table.refersTo file = false := by
  cases used : table.refersTo file with
  | false => rfl
  | true =>
      obtain ⟨number, found⟩ := (table.refersTo_iff file).mp used
      exact absurd found (unused number)

/-! ## The lowest free number -/

theorem file?_lowestFree : table.file? table.lowestFree = none :=
  (table.file?_eq_none_iff _).mpr table.get?_lowestFree

/-- Every number below the lowest free one is taken. -/
theorem get?_isSome_of_lt {number : Nat} (below : number < table.lowestFree) :
    (table.get? number).isSome = true := by
  have inside : number < table.slots.length :=
    Nat.lt_of_lt_of_le below List.findIdx_le_length
  have taken := List.not_of_lt_findIdx below
  simpa [get?, List.getD_eq_getElem?_getD, List.getElem?_eq_getElem inside] using taken

/-- The lowest free number is at most any free number. -/
theorem lowestFree_le {number : Nat} (isFree : table.get? number = none) :
    table.lowestFree ≤ number := by
  by_contra below
  have taken := table.get?_isSome_of_lt (Nat.lt_of_not_le below)
  simp [isFree] at taken

/-- Once the lowest free number is taken the next one is larger. -/
theorem lowestFree_lt_put (descriptor : Descriptor) :
    table.lowestFree < (table.put table.lowestFree descriptor).lowestFree := by
  by_contra notLarger
  have low := Nat.le_of_not_lt notLarger
  have isFree := (table.put table.lowestFree descriptor).get?_lowestFree
  rw [get?_put] at isFree
  split at isFree
  · cases isFree
  · rename_i different
    exact different (Nat.le_antisymm low (table.lowestFree_le isFree))

/-! ## Taking a number and pointing a number at a file -/

/-- The table in which the lowest free number has a descriptor. -/
def occupy (descriptor : Descriptor) : DescriptorTable :=
  table.put table.lowestFree descriptor

/-- The table in which `target` refers to the file of `source` and is
inherited.  Nothing changes when `source` is free, or the same number. -/
def pointTo (source target : Nat) : DescriptorTable :=
  match table.get? source with
  | none => table
  | some descriptor =>
      if source = target then table
      else table.put target { descriptor with inherited := true }

theorem file?_occupy (descriptor : Descriptor) (number : Nat) :
    (table.occupy descriptor).file? number =
      if number = table.lowestFree then some descriptor.file else table.file? number :=
  table.file?_put _ _ _

theorem file?_pointTo {source : Nat} {file : OpenFile} (found : table.file? source = some file)
    (target number : Nat) :
    (table.pointTo source target).file? number =
      if number = target then some file else table.file? number := by
  obtain ⟨descriptor, present, rfl⟩ := table.get?_of_file? found
  simp only [pointTo, present]
  split
  · rename_i same
    subst same
    split
    · rename_i same
      rw [same, found]
    · rfl
  · exact table.file?_put _ _ _

theorem file?_pointTo_of_ne (source : Nat) {target number : Nat} (different : number ≠ target) :
    (table.pointTo source target).file? number = table.file? number := by
  cases found : table.get? source with
  | none => simp only [pointTo, found]
  | some descriptor =>
      rw [table.file?_pointTo (table.file?_of_get? found), if_neg different]

theorem get?_pointTo {source target : Nat} {descriptor : Descriptor}
    (found : table.get? source = some descriptor) (different : source ≠ target) (number : Nat) :
    (table.pointTo source target).get? number =
      if number = target then some { descriptor with inherited := true }
      else table.get? number := by
  simp only [pointTo, found, if_neg different]
  exact table.get?_put _ _ _

/-- A number that points at the file of another one is inherited. -/
theorem get?_pointTo_self {source target : Nat} {file : OpenFile}
    (found : table.file? source = some file) (different : source ≠ target) :
    (table.pointTo source target).get? target = some ⟨file, true⟩ := by
  obtain ⟨descriptor, present, rfl⟩ := table.get?_of_file? found
  rw [table.get?_pointTo present different, if_pos rfl]

theorem get?_pointTo_of_ne {source : Nat} {file : OpenFile}
    (found : table.file? source = some file) {target number : Nat} (different : number ≠ target) :
    (table.pointTo source target).get? number = table.get? number := by
  obtain ⟨descriptor, present, rfl⟩ := table.get?_of_file? found
  by_cases same : source = target
  · simp only [pointTo, present, if_pos same]
  · rw [table.get?_pointTo present same, if_neg different]

theorem file?_put_eq (number : Nat) (descriptor : Descriptor) :
    (table.put number descriptor).file? =
      Function.update table.file? number (some descriptor.file) := by
  funext other
  rw [Function.update_apply]
  exact table.file?_put number other descriptor

theorem file?_close_eq (number : Nat) :
    (table.close number).file? = Function.update table.file? number none := by
  funext other
  rw [Function.update_apply]
  exact table.file?_close number other

theorem file?_occupy_eq (descriptor : Descriptor) :
    (table.occupy descriptor).file? =
      Function.update table.file? table.lowestFree (some descriptor.file) :=
  table.file?_put_eq _ _

theorem file?_pointTo_eq {source : Nat} {file : OpenFile} (found : table.file? source = some file)
    (target : Nat) :
    (table.pointTo source target).file? = Function.update table.file? target (some file) := by
  funext number
  rw [Function.update_apply]
  exact table.file?_pointTo found target number

end CompileDriver.DescriptorTable
