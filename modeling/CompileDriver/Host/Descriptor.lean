import CompileDriver.FileTree.Basic
import CompileDriver.Stream

/-!
# Descriptor tables

A process refers to open files by numbers.  The table says which open file each
number refers to and whether a program started by the process receives it too.
A new descriptor always takes the lowest free number.

Equal values of `OpenFile` stand for the same open file: everything that can be
opened more than once carries a number of its own.
-/

namespace CompileDriver

/-- An open file. -/
inductive OpenFile
  /-- The empty input that the process was started with. -/
  | emptyInput
  /-- What a standard stream referred to when the process was started. -/
  | initial (stream : Stream)
  /-- The discard device, opened for the `opening`-th time. -/
  | discard (opening : Nat)
  /-- The end of a pipe that is read from. -/
  | pipeReader (pipe : Nat)
  /-- The end of a pipe that is written to. -/
  | pipeWriter (pipe : Nat)
  /-- An entry of the file tree; what is written to it is appended. -/
  | entry (opening : Nat) (place : Place)
  deriving Repr, DecidableEq

/-- What a number refers to. -/
structure Descriptor where
  file : OpenFile
  /-- Whether programs started by the process receive the descriptor. -/
  inherited : Bool
  deriving Repr, DecidableEq

/-- What each number refers to; numbers beyond the list are free. -/
structure DescriptorTable where
  slots : List (Option Descriptor)
  deriving Repr, DecidableEq

namespace DescriptorTable

/-- The descriptor with a number. -/
def get? (table : DescriptorTable) (number : Nat) : Option Descriptor :=
  table.slots.getD number none

/-- The open file that a number refers to. -/
def file? (table : DescriptorTable) (number : Nat) : Option OpenFile :=
  (table.get? number).map Descriptor.file

/-- The lowest free number. -/
def lowestFree (table : DescriptorTable) : Nat :=
  table.slots.findIdx Option.isNone

/-- The free number that has `count` free numbers below it, counted from
`number` on. -/
def freeAfter (slots : List (Option Descriptor)) (number count : Nat) : Nat :=
  match slots with
  | [] => number + count
  | some _ :: rest => freeAfter rest (number + 1) count
  | none :: rest =>
      match count with
      | 0 => number
      | count + 1 => freeAfter rest (number + 1) count

/-- The lowest number above `count` free ones. -/
def numberAbove (table : DescriptorTable) (count : Nat) : Nat :=
  freeAfter table.slots 0 count

/-- Replace the slot of a number. -/
def setSlot (table : DescriptorTable) (number : Nat) (slot : Option Descriptor) :
    DescriptorTable :=
  { slots :=
      (table.slots ++ List.replicate (number + 1 - table.slots.length) none).set number slot }

/-- Make a number refer to a descriptor, whatever it referred to before. -/
def put (table : DescriptorTable) (number : Nat) (descriptor : Descriptor) : DescriptorTable :=
  table.setSlot number (some descriptor)

/-- Free a number. -/
def close (table : DescriptorTable) (number : Nat) : DescriptorTable :=
  if number < table.slots.length then table.setSlot number none else table

/-- Whether some number refers to an open file. -/
def refersTo (table : DescriptorTable) (file : OpenFile) : Bool :=
  table.slots.any fun slot => slot.any fun descriptor => descriptor.file = file

theorem get?_setSlot (table : DescriptorTable) (number other : Nat) (slot : Option Descriptor) :
    (table.setSlot number slot).get? other = if other = number then slot else table.get? other := by
  simp only [get?, setSlot, List.getD_eq_getElem?_getD, List.getElem?_set]
  split
  · rename_i h
    subst h
    rw [if_pos rfl, if_pos]
    · rfl
    · simp
      omega
  · rename_i h
    rw [if_neg (fun e => h e.symm)]
    by_cases inside : other < table.slots.length
    · rw [List.getElem?_append_left inside]
    · rw [List.getElem?_append_right (by omega), List.getElem?_replicate]
      rw [List.getElem?_eq_none (by omega)]
      split <;> rfl

/-- A number refers to what was put there last, other numbers are not
affected. -/
theorem get?_put (table : DescriptorTable) (number other : Nat) (descriptor : Descriptor) :
    (table.put number descriptor).get? other =
      if other = number then some descriptor else table.get? other :=
  get?_setSlot table number other (some descriptor)

/-- Closing frees one number only. -/
theorem get?_close (table : DescriptorTable) (number other : Nat) :
    (table.close number).get? other = if other = number then none else table.get? other := by
  unfold close
  split
  · exact get?_setSlot table number other none
  · split
    · rename_i outside same
      subst same
      simp [get?, List.getD_eq_getElem?_getD, List.getElem?_eq_none (Nat.le_of_not_lt outside)]
    · rfl

/-- The lowest free number is free. -/
theorem get?_lowestFree (table : DescriptorTable) : table.get? table.lowestFree = none := by
  simp only [get?, lowestFree, List.getD_eq_getElem?_getD]
  by_cases inside : table.slots.findIdx Option.isNone < table.slots.length
  · have isFree := List.findIdx_getElem (w := inside)
    rw [List.getElem?_eq_getElem inside]
    simpa using isFree
  · rw [List.getElem?_eq_none (Nat.le_of_not_lt inside)]
    rfl

end DescriptorTable

end CompileDriver
