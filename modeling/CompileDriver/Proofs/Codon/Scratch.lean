import CompileDriver.Codon.Session
import CompileDriver.Proofs.FileTree.Lookup
import CompileDriver.Proofs.Path
import CompileDriver.Proofs.Text.Utf8
import Mathlib.Data.List.Nodup
import Mathlib.Data.List.Perm.Subperm
import Mathlib.Data.List.TakeWhile

/-!
# Scratch directories

Different numbers name different scratch directories, so that among more numbers than there
are entries one is free.  What the compiler is asked to write lies directly in the scratch
directory, or it is a directory: the name of the artifact holds no slash, also after it was
decoded.
-/

namespace CompileDriver

/-! ## Numbers with leading zeros -/

namespace Decimal

theorem toList_zeroPadded (width n : Nat) :
    (zeroPadded width n).toList =
      List.replicate (width - (toString n).length) '0' ++ Nat.toDigits 10 n := by
  simp [zeroPadded, Nat.toList_repr]

/-- Leading zeros do not change the number. -/
theorem ofDigitChars_zeros (zeros n : Nat) :
    Nat.ofDigitChars 10 (List.replicate zeros '0' ++ Nat.toDigits 10 n) 0 = n := by
  induction zeros with
  | zero => simp [Nat.ofDigitChars_toDigits]
  | succ zeros ih =>
      rw [List.replicate_succ, List.cons_append, Nat.ofDigitChars_cons]
      simpa using ih

theorem zeroPadded_injective {width m n : Nat} (same : zeroPadded width m = zeroPadded width n) :
    m = n := by
  have digits := congrArg String.toList same
  rw [toList_zeroPadded, toList_zeroPadded] at digits
  rw [← ofDigitChars_zeros (width - (toString m).length) m, digits, ofDigitChars_zeros]

theorem isDigit_of_mem_zeroPadded {width n : Nat} {c : Char}
    (member : c ∈ (zeroPadded width n).toList) : c.isDigit = true := by
  rw [toList_zeroPadded] at member
  rcases List.mem_append.mp member with isZero | isDigit
  · rw [List.eq_of_mem_replicate isZero]
    rfl
  · exact Nat.isDigit_of_mem_toDigits (by decide) (by decide) isDigit

end Decimal

namespace Codon.Session

/-! ## Names -/

/-- The name of the scratch directory with a number. -/
def scratchName (number : Nat) : Name :=
  Bytes.ofText (scratchPrefix ++ Decimal.zeroPadded 6 number)

theorem scratchPlace_eq (temporary : Place) (number : Nat) :
    scratchPlace temporary number = temporary ++ [scratchName number] :=
  rfl

theorem scratchPlace_injective {temporary : Place} {m n : Nat}
    (same : scratchPlace temporary m = scratchPlace temporary n) : m = n := by
  have names : scratchName m = scratchName n := by simpa [scratchPlace_eq] using same
  have texts := congrArg String.toList (Bytes.ofText_injective names)
  rw [String.toList_append, String.toList_append] at texts
  exact Decimal.zeroPadded_injective (String.toList_inj.mp (List.append_cancel_left texts))

/-- A name is the prefix with ASCII digits behind it. -/
theorem scratchName_eq (number : Nat) :
    scratchName number = Bytes.ofText scratchPrefix ++
      (Decimal.zeroPadded 6 number).toList.map fun c => UInt8.ofNat c.toNat := by
  have digits (cs : List Char) (known : ∀ c ∈ cs, c.isDigit = true) :
      cs.flatMap String.utf8EncodeChar = cs.map fun c => UInt8.ofNat c.toNat := by
    induction cs with
    | nil => rfl
    | cons c rest ih =>
        obtain ⟨isDigit, digitsRest⟩ := List.forall_mem_cons.mp known
        have ascii : c.toNat < 128 := by
          have range := (Char.isDigit_iff_toNat.mp isDigit).2
          have nine : '9'.toNat = 57 := rfl
          omega
        rw [List.flatMap_cons, List.map_cons, utf8EncodeChar_ascii ascii, ih digitsRest]
        rfl
  rw [scratchName, Bytes.ofText_append, Bytes.ofText_eq (Decimal.zeroPadded 6 number)]
  exact congrArg _ (digits _ fun c => Decimal.isDigit_of_mem_zeroPadded)

theorem mem_scratchName {number : Nat} {byte : UInt8} (member : byte ∈ scratchName number) :
    byte ∈ Bytes.ofText scratchPrefix ∨ 48 ≤ byte.toNat ∧ byte.toNat ≤ 57 := by
  rw [scratchName_eq] at member
  rcases List.mem_append.mp member with inPrefix | isDigit
  · exact .inl inPrefix
  · obtain ⟨c, inDigits, rfl⟩ := List.mem_map.mp isDigit
    have range := Char.isDigit_iff_toNat.mp (Decimal.isDigit_of_mem_zeroPadded inDigits)
    have zero : '0'.toNat = 48 := rfl
    have nine : '9'.toNat = 57 := rfl
    rw [UInt8.toNat_ofNat']
    omega

theorem scratchPrefix_eq : Bytes.ofText scratchPrefix = [115, 121, 113, 117, 114, 101, 45] := by
  decide +kernel

theorem ascii_scratchName (number : Nat) : ∀ byte ∈ scratchName number, byte < 0x80 := by
  intro byte member
  rw [UInt8.lt_iff_toNat_lt]
  rcases mem_scratchName member with inPrefix | isDigit
  · rw [scratchPrefix_eq] at inPrefix
    have small : ∀ byte ∈ ([115, 121, 113, 117, 114, 101, 45] : Bytes), byte.toNat < 128 := by simp
    exact small byte inPrefix
  · exact Nat.lt_of_le_of_lt isDigit.2 (by decide)

/-- The name begins with the letter of the prefix. -/
theorem head?_scratchName (number : Nat) : (scratchName number).head? = some 115 := by
  rw [scratchName_eq, scratchPrefix_eq]
  rfl

theorem isPlain_scratchName (number : Nat) : Name.IsPlain (scratchName number) := by
  have head := head?_scratchName number
  refine ⟨?_, ?_, ?_, ?_⟩
  · intro empty
    simp [empty] at head
  · intro member
    rcases mem_scratchName member with inPrefix | isDigit
    · rw [scratchPrefix_eq] at inPrefix
      revert inPrefix
      decide
    · revert isDigit
      decide
  · intro isDot
    rw [isDot] at head
    revert head
    decide
  · intro isParent
    rw [isParent] at head
    revert head
    decide

/-! ## A free number -/

/-- The place that is chosen for a new scratch directory is free. -/
theorem get?_freeScratch (files : FileTree) (temporary : Place) (number : Nat) :
    files.get? (scratchPlace temporary (freeScratch files temporary number)) = none := by
  unfold freeScratch
  dsimp only
  generalize listed : (List.range (files.entries.length + 1)).map (number + ·) = candidates
  cases found : candidates.find? fun candidate =>
      (files.get? (scratchPlace temporary candidate)).isNone with
  | some candidate =>
      have isFree := List.find?_some found
      simpa using isFree
  | none =>
      -- otherwise there were more places taken than there are entries
      exfalso
      have distinct : (candidates.map (scratchPlace temporary)).Nodup := by
        rw [← listed]
        apply List.Nodup.map fun _ _ => scratchPlace_injective
        exact List.nodup_range.map fun _ _ => Nat.add_left_cancel
      have taken : candidates.map (scratchPlace temporary) ⊆ files.entries.map Prod.fst := by
        intro place member
        obtain ⟨candidate, isCandidate, rfl⟩ := List.mem_map.mp member
        have stands := List.find?_eq_none.mp found candidate isCandidate
        obtain ⟨node, here⟩ :
            ∃ node, files.get? (scratchPlace temporary candidate) = some node := by
          simpa [Option.isNone_iff_eq_none, Option.ne_none_iff_exists'] using stands
        rw [FileTree.get?_of_ne_root files (by simp [scratchPlace_eq])] at here
        exact List.mem_map.mpr ⟨_, FileTree.mem_of_lookup here, rfl⟩
      have fewer := (List.subperm_of_subset distinct taken).length_le
      rw [← listed] at fewer
      rw [List.length_map, List.length_map, List.length_map, List.length_range] at fewer
      omega

/-! ## Artifacts -/

/-- The name of the artifact of a source. -/
def artifactName (input : Path) : Name :=
  (Path.fileStem input).getD (Bytes.ofText "program")
theorem slash_not_mem_fileName {path : Path} {name : Name}
    (found : Path.fileName path = some name) :
    Bytes.slash ∉ name := by
  obtain ⟨front, ends⟩ := Path.fileName_eq_some_iff.mp found
  exact ends.absent

theorem mem_splitExtension {name : Name} {byte : UInt8}
    (member : byte ∈ (Path.splitExtension name).1) : byte ∈ name := by
  unfold Path.splitExtension at member
  dsimp only at member
  split at member
  · exact member
  · exact member
  · rename_i first stem cut
    have inStem : byte ∈ name.reverse.dropWhile (· != Bytes.dot) := by
      rw [cut]
      exact List.mem_cons_of_mem _ (List.mem_reverse.mp member)
    exact List.mem_reverse.mp ((List.dropWhile_sublist _).mem inStem)

theorem slash_not_mem_artifactName (input : Path) : Bytes.slash ∉ artifactName input := by
  unfold artifactName Path.fileStem
  cases found : Path.fileName input with
  | none => decide +kernel
  | some name => exact fun member => slash_not_mem_fileName found (mem_splitExtension member)

theorem artifactPath_eq (temporary : Place) (number : Nat) (input : Path) :
    artifactPath (scratchPlace temporary number) input =
      (scratchPlace temporary number).path ++ Bytes.slash :: artifactName input :=
  FileTree.join_path temporary (isPlain_scratchName number) (slash_not_mem_artifactName input)

/-- Decoded and encoded again, the path of an artifact has the same two parts. -/
theorem ofText_display_artifactPath (temporary : Place) (number : Nat) (input : Path) :
    Bytes.ofText (Path.display (artifactPath (scratchPlace temporary number) input)) =
      Bytes.ofText (Path.display (scratchPlace temporary number).path) ++
        Bytes.slash :: Bytes.ofText (Utf8.lossy (artifactName input)) := by
  rw [artifactPath_eq, Path.display, Utf8.ofText_lossy_append (by decide)]
  rfl

/-- The path of a scratch directory is a text if that of the directory above is one. -/
theorem ofText_display_scratchPlace {temporary : Place}
    (text : Bytes.ofText (Path.display temporary.path) = temporary.path) (number : Nat) :
    Bytes.ofText (Path.display (scratchPlace temporary number).path) =
      (scratchPlace temporary number).path := by
  have front : Bytes.ofText (Utf8.lossy (temporary.flatMap fun name => Bytes.slash :: name)) =
      temporary.flatMap fun name => Bytes.slash :: name := by
    unfold Path.display Place.path at text
    split at text
    · rename_i isRoot
      rw [isRoot]
      rfl
    · exact text
  have path : (scratchPlace temporary number).path =
      (temporary.flatMap fun name => Bytes.slash :: name) ++ Bytes.slash :: scratchName number := by
    simp [scratchPlace_eq, Place.path]
  rw [Path.display, path, Utf8.ofText_lossy_append (by decide), front,
    Utf8.ofText_lossy (ascii_scratchName number)]

section

variable {temporary : Place} (plain : ∀ name ∈ temporary, Name.IsPlain name) (number : Nat)

include plain

theorem isPlain_scratchPlace : ∀ name ∈ scratchPlace temporary number, Name.IsPlain name := by
  intro name member
  rcases List.mem_append.mp member with inFront | isLast
  · exact plain name inFront
  · rw [List.mem_singleton.mp isLast]
    exact isPlain_scratchName number

/-- No artifact takes the path of the compiler. -/
theorem artifactPath_ne_binary (input root : Path) :
    artifactPath (scratchPlace temporary number) input ≠
      (root.joinText "bin").joinText "codon" := by
  intro same
  have bin : Bytes.ofText "bin" = [98, 105, 110] := by decide +kernel
  have codon : Bytes.ofText "codon" = [99, 111, 100, 111, 110] := by decide +kernel
  have names := congrArg FileTree.segments same
  rw [artifactPath_eq, FileTree.segments_append,
    FileTree.segments_path (isPlain_scratchPlace plain number),
    FileTree.segments_name (slash_not_mem_artifactName input), scratchPlace_eq, Path.joinText,
    Path.joinText, bin, codon, FileTree.segments_join _ (by decide),
    FileTree.segments_join _ (by decide)] at names
  have last : FileTree.segments [99, 111, 100, 111, 110] = [[99, 111, 100, 111, 110]] := by decide
  have above : FileTree.segments [98, 105, 110] = [[98, 105, 110]] := by decide
  have head := head?_scratchName number
  rw [last, above] at names
  -- the directory of the artifact has another name than that of the compiler
  split at names
  · rw [List.append_nil] at names
    obtain ⟨-, scratch⟩ := List.append_inj' names rfl
    rw [List.singleton_inj.mp scratch] at head
    revert head
    decide
  · obtain ⟨directories, -⟩ := List.append_inj' names rfl
    obtain ⟨-, scratch⟩ := List.append_inj' directories rfl
    rw [List.singleton_inj.mp scratch] at head
    revert head
    decide

end

end Codon.Session

end CompileDriver
