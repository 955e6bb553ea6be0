import CompileDriver.Path
import Mathlib.Data.List.Basic
import Mathlib.Data.List.TakeWhile

/-!
# File names and the executables named after them

`EndsInName` says what the file name of a path is without reading the path from its end: the
last segment that counts, where slashes and `.` segments behind it do not.  The search for the
file name finds exactly that, and a name splits at its last dot.

The main result says how the executable of a source is named when nothing else is asked for.
-/

namespace CompileDriver.Path

open Bytes (slash dot)

/-! ## File names -/

/-- Slashes and `.` segments that follow something without counting. -/
inductive Inert : Bytes → Prop
  | nil : Inert []
  | slash {rest : Bytes} (inert : Inert rest) : Inert (slash :: rest)
  | dot {rest : Bytes} (inert : Inert rest) : Inert (slash :: dot :: rest)

/-- A segment begins behind these bytes. -/
def AtSegment (front : Bytes) : Prop :=
  front = [] ∨ front.getLast? = some slash

/-- The path has a file name, before which stands `front`: a segment other than `.` and `..`
behind which nothing counts. -/
structure EndsInName (path front name : Bytes) : Prop where
  split : ∃ inert, Inert inert ∧ path = front ++ name ++ inert
  begins : AtSegment front
  absent : slash ∉ name
  nonempty : name ≠ []
  notDot : name ≠ [dot]
  notParent : name ≠ [dot, dot]

/-- The path ends at the root, in the current directory or in a parent directory, so that it
has no file name. -/
def Nameless (path : Path) : Prop :=
  ∃ front inert, Inert inert ∧ path = front ++ inert ∧
    (front = [] ∨ front = [dot] ∨ ∃ above, AtSegment above ∧ front = above ++ [dot, dot])

theorem Inert.append {first second : Bytes} (inert : Inert first) (more : Inert second) :
    Inert (first ++ second) := by
  induction inert with
  | nil => exact more
  | slash _ ih => exact .slash ih
  | dot _ ih => exact .dot ih

/-- A last slash that does not count can be left out. -/
theorem Inert.of_concat_slash {front : Bytes} (inert : Inert (front ++ [Bytes.slash])) :
    Inert front := by
  generalize whole : front ++ [Bytes.slash] = bytes at inert
  induction inert generalizing front with
  | nil => simp at whole
  | slash inert ih =>
      cases front with
      | nil => exact .nil
      | cons first front =>
          obtain ⟨rfl, rest⟩ := List.cons.inj whole
          exact .slash (ih rest)
  | dot inert ih =>
      match front with
      | [] => simp at whole
      | [_] => simp [Bytes.slash, Bytes.dot] at whole
      | first :: second :: front =>
          simp only [List.cons_append, List.cons.injEq] at whole
          obtain ⟨rfl, rfl, rest⟩ := whole
          exact .dot (ih rest)

/-- What remains of a reversed path does not begin with a slash. -/
theorem head?_dropInert_ne (bytes : Bytes) : (dropInert bytes).head? ≠ some slash := by
  fun_induction dropInert bytes with
  | case1 | case3 => simp
  | case2 _ ih | case4 _ _ ih => exact ih
  | case5 next rest notSlash isByte => simp [slash, dot]
  | case6 byte rest notSlash notDot => simpa using notSlash

/-- A segment of one dot does not remain. -/
theorem takeWhile_dropInert_ne (bytes : Bytes) :
    (dropInert bytes).takeWhile (· != slash) ≠ [dot] := by
  fun_induction dropInert bytes with
  | case1 | case3 => simp
  | case2 _ ih | case4 _ _ ih => exact ih
  | case5 next rest notSlash isByte => simp [notSlash, isByte]
  | case6 byte rest notSlash notDot => simp [notSlash, notDot]

/-- From the end of a path nothing is dropped that counts, unless the path is a `.` segment. -/
theorem exists_inert (bytes : Bytes) :
    ∃ inert, Inert inert ∧
      (bytes = inert.reverse ++ dropInert bytes ∨
        dropInert bytes = [] ∧ bytes = inert.reverse ++ [dot]) := by
  fun_induction dropInert bytes with
  | case1 => exact ⟨[], .nil, .inl rfl⟩
  | case2 rest ih =>
      obtain ⟨inert, isInert, split⟩ := ih
      refine ⟨inert ++ [slash], isInert.append (.slash .nil), ?_⟩
      simpa using split
  | case3 => exact ⟨[], .nil, .inr ⟨rfl, rfl⟩⟩
  | case4 rest notSlash ih =>
      obtain ⟨inert, isInert, split⟩ := ih
      -- the slash in front of the dot was dropped too, so that the dot is a segment
      rcases List.eq_nil_or_concat inert with rfl | ⟨front, byte, rfl⟩
      · exfalso
        rcases split with whole | ⟨-, whole⟩
        · have first := congrArg List.head? whole
          exact head?_dropInert_ne (slash :: rest) first.symm
        · simp [slash, dot] at whole
      · obtain rfl : byte = slash := by
          rcases split with whole | ⟨-, whole⟩ <;> simp_all
        rw [List.concat_eq_append] at isInert split
        refine ⟨front ++ [slash, dot], isInert.of_concat_slash.append (.dot .nil), ?_⟩
        simpa using split
  | case5 | case6 => exact ⟨[], .nil, .inl rfl⟩

theorem eq_append_inert (path : Path) :
    ∃ inert, Inert inert ∧
      (path = (dropInert path.reverse).reverse ++ inert ∨
        dropInert path.reverse = [] ∧ path = dot :: inert) := by
  obtain ⟨inert, isInert, split⟩ := exists_inert path.reverse
  refine ⟨inert, isInert, split.imp (fun whole => ?_) (And.imp_right fun whole => ?_)⟩
  · have parts := congrArg List.reverse whole
    rwa [List.reverse_reverse, List.reverse_append, List.reverse_reverse] at parts
  · simpa using congrArg List.reverse whole

/-- Behind what does not count, the search goes on as if it were not there. -/
theorem dropInert_reverse {inert : Bytes} (isInert : Inert inert) (front : Bytes) :
    dropInert (inert.reverse ++ front) = dropInert front := by
  induction isInert generalizing front with
  | nil => rfl
  | slash _ ih => simpa [dropInert] using ih (slash :: front)
  | dot _ ih => simpa [dropInert, slash, dot] using ih (dot :: slash :: front)

/-- Nothing is dropped behind a name. -/
theorem dropInert_name {last : Bytes} (nonempty : last ≠ []) (absent : slash ∉ last)
    (notDot : last ≠ [dot]) (front : Bytes) :
    dropInert (last.reverse ++ front) = last.reverse ++ front := by
  obtain ⟨rest, byte, rfl⟩ := (List.eq_nil_or_concat last).resolve_left nonempty
  have notSlash : byte ≠ slash := by
    rintro rfl
    exact absent (by simp)
  rw [List.concat_eq_append, List.reverse_append, List.reverse_singleton, List.singleton_append,
    List.cons_append, dropInert.eq_def]
  dsimp only
  rw [if_neg notSlash]
  split
  · rename_i isDot
    cases reversed : rest.reverse with
    | nil =>
        obtain rfl : rest = [] := List.reverse_eq_nil_iff.mp reversed
        exact absurd (by rw [isDot]; rfl) notDot
    | cons next more =>
        have other : next ≠ slash := by
          rintro rfl
          have inside : slash ∈ rest := List.mem_reverse.mp (reversed ▸ List.mem_cons_self)
          exact absent (by simp [inside])
        simp [other]
  · rfl

/-- What has no separator in it is other than the separator throughout. -/
theorem other_than {separator : UInt8} {bytes : Bytes} (absent : separator ∉ bytes) :
    ∀ byte ∈ bytes, (byte != separator) = true := by
  intro byte member
  have other : byte ≠ separator := fun same => absent (same ▸ member)
  simpa using other

/-- Bytes are cut in only one way at their last separator. -/
theorem append_separator_inj {separator : UInt8} {first second name last : Bytes}
    (absent : separator ∉ name) (absentLast : separator ∉ last)
    (same : first ++ separator :: name = second ++ separator :: last) :
    first = second ∧ name = last := by
  rcases List.append_eq_append_iff.mp same with ⟨more, rfl, rest⟩ | ⟨more, rfl, rest⟩
  · cases more with
    | nil => simpa using rest
    | cons byte more =>
        rw [(List.cons.inj rest).2] at absent
        simp at absent
  · cases more with
    | nil => simpa [eq_comm] using rest
    | cons byte more =>
        rw [(List.cons.inj rest).2] at absentLast
        simp at absentLast

/-- The last segment and what stands before it, read from the end. -/
theorem segment_reverse {name front : Bytes} (absent : slash ∉ name) (begins : AtSegment front) :
    (name.reverse ++ front.reverse).takeWhile (· != slash) = name.reverse ∧
      (name.reverse ++ front.reverse).dropWhile (· != slash) = front.reverse := by
  have kept := other_than fun member => absent (List.mem_reverse.mp member)
  have stops : front.reverse = [] ∨ ∃ rest, front.reverse = slash :: rest := by
    rcases begins with rfl | last
    · exact .inl rfl
    · exact .inr (List.head?_eq_some_iff.mp (by rwa [List.head?_reverse]))
  rw [List.takeWhile_append_of_pos kept, List.dropWhile_append_of_pos kept]
  rcases stops with none | ⟨rest, first⟩
  · simp [none]
  · simp [first]

/-- A segment begins behind what is left when a last segment is taken away. -/
theorem atSegment_dropWhile (bytes : Bytes) :
    AtSegment (bytes.dropWhile (· != slash)).reverse := by
  unfold AtSegment
  rw [List.reverse_eq_nil_iff, List.getLast?_reverse]
  cases remaining : bytes.dropWhile (· != slash) with
  | nil => exact .inl rfl
  | cons byte rest =>
      have stops := List.head?_dropWhile_not (· != slash) bytes
      rw [remaining] at stops
      right
      simpa using stops

variable {path : Path} {front name : Bytes}

theorem splitFileName_eq_some_iff :
    splitFileName path = some (front, name) ↔ EndsInName path front name := by
  constructor
  · intro found
    unfold splitFileName at found
    dsimp only at found
    split at found
    · cases found
    rename_i named
    cases found
    obtain ⟨nonempty, notParent⟩ := not_or.mp named
    refine ⟨?_, atSegment_dropWhile _, ?_, nonempty, ?_, notParent⟩
    · obtain ⟨inert, isInert, split | ⟨none, -⟩⟩ := eq_append_inert path
      · refine ⟨inert, isInert, ?_⟩
        rwa [← List.reverse_append, List.takeWhile_append_dropWhile]
      · simp [none] at nonempty
    · intro member
      have kept := List.mem_takeWhile_imp (List.mem_reverse.mp member)
      simp at kept
    · exact fun isDot => takeWhile_dropInert_ne path.reverse (List.reverse_eq_iff.mp isDot)
  · rintro ⟨⟨inert, isInert, rfl⟩, begins, absent, nonempty, notDot, notParent⟩
    obtain ⟨taken, dropped⟩ := segment_reverse absent begins
    unfold splitFileName
    rw [List.reverse_append, List.reverse_append, dropInert_reverse isInert,
      dropInert_name nonempty absent notDot]
    dsimp only
    rw [taken, dropped, List.reverse_reverse, List.reverse_reverse, if_neg]
    simp [nonempty, notParent]

theorem fileName_eq_some_iff : fileName path = some name ↔ ∃ front, EndsInName path front name := by
  simp [fileName, splitFileName_eq_some_iff]

/-- A path has at most one file name. -/
theorem EndsInName.unique {other otherName : Bytes} (ends : EndsInName path front name)
    (endsOther : EndsInName path other otherName) : front = other ∧ name = otherName := by
  have found := splitFileName_eq_some_iff.mpr ends
  rw [splitFileName_eq_some_iff.mpr endsOther] at found
  exact (Prod.mk.inj (Option.some.inj found)).imp Eq.symm Eq.symm

theorem splitFileName_eq_none_iff : splitFileName path = none ↔ Nameless path := by
  constructor
  · intro missing
    unfold splitFileName at missing
    dsimp only at missing
    split at missing
    · rename_i unnamed
      obtain ⟨inert, isInert, split⟩ := eq_append_inert path
      rcases unnamed with empty | parent
      · have none : dropInert path.reverse = [] := by
          cases remaining : dropInert path.reverse with
          | nil => rfl
          | cons byte rest =>
              have notSlash := head?_dropInert_ne path.reverse
              rw [remaining] at notSlash empty
              simp_all
        rcases split with split | ⟨-, split⟩
        · exact ⟨[], inert, isInert, by rwa [none] at split, .inl rfl⟩
        · exact ⟨[dot], inert, isInert, split, .inr (.inl rfl)⟩
      · rcases split with split | ⟨none, -⟩
        · refine ⟨_, inert, isInert, split, .inr (.inr
            ⟨_, atSegment_dropWhile (dropInert path.reverse), ?_⟩)⟩
          rw [← parent, ← List.reverse_append, List.takeWhile_append_dropWhile]
        · simp [none] at parent
    · cases missing
  · rintro ⟨front, inert, isInert, rfl, shape⟩
    unfold splitFileName
    rw [List.reverse_append, dropInert_reverse isInert]
    dsimp only
    apply if_pos
    rcases shape with rfl | rfl | ⟨above, begins, rfl⟩
    · exact .inl rfl
    · exact .inl rfl
    · right
      rw [List.reverse_append, dropInert_name (by simp) (by decide) (by simp),
        (segment_reverse (by decide) begins).1, List.reverse_reverse]

/-! ## Stems and extensions -/

/-- A name is read from its end to its last dot. -/
theorem splitExtension_of_reverse {name ext rest : Bytes} (absent : dot ∉ ext)
    (reversed : name.reverse = ext ++ dot :: rest) :
    splitExtension name =
      if rest = [] then (name, none) else (rest.reverse, some ext.reverse) := by
  have kept := other_than absent
  have dropped : name.reverse.dropWhile (· != dot) = dot :: rest := by
    rw [reversed, List.dropWhile_append_of_pos kept]
    simp
  have taken : name.reverse.takeWhile (· != dot) = ext := by
    rw [reversed, List.takeWhile_append_of_pos kept]
    simp
  unfold splitExtension
  dsimp only
  rw [dropped, taken]
  cases rest <;> rfl

theorem splitExtension_append {stem ext : Bytes} (nonempty : stem ≠ []) (absent : dot ∉ ext) :
    splitExtension (stem ++ dot :: ext) = (stem, some ext) := by
  have absentReversed : dot ∉ ext.reverse := fun member => absent (List.mem_reverse.mp member)
  have reversed : (stem ++ dot :: ext).reverse = ext.reverse ++ dot :: stem.reverse := by simp
  rw [splitExtension_of_reverse absentReversed reversed]
  simp [nonempty]

/-- A name is its own stem, or it splits at its last dot. -/
theorem splitExtension_cases (name : Bytes) :
    splitExtension name = (name, none) ∨
      ∃ stem ext, stem ≠ [] ∧ dot ∉ ext ∧ name = stem ++ dot :: ext := by
  by_cases present : dot ∈ name.reverse
  · obtain ⟨ext, rest, reversed, absent⟩ := List.eq_append_cons_of_mem present
    have split := splitExtension_of_reverse absent reversed
    by_cases hidden : rest = []
    · exact .inl (by rw [split, if_pos hidden])
    · refine .inr ⟨rest.reverse, ext.reverse, by simpa using hidden, by simpa using absent, ?_⟩
      rw [← List.reverse_reverse name, reversed]
      simp
  · left
    unfold splitExtension
    dsimp only
    rw [List.dropWhile_eq_nil_iff.mpr (other_than present)]

theorem splitExtension_eq_iff {stem ext : Bytes} :
    splitExtension name = (stem, some ext) ↔ stem ≠ [] ∧ dot ∉ ext ∧ name = stem ++ dot :: ext := by
  constructor
  · intro split
    rcases splitExtension_cases name with whole | ⟨front, last, nonempty, absent, rfl⟩
    · rw [whole] at split
      cases split
    · rw [splitExtension_append nonempty absent] at split
      cases split
      exact ⟨nonempty, absent, rfl⟩
  · rintro ⟨nonempty, absent, rfl⟩
    exact splitExtension_append nonempty absent

/-! ## Executables -/

/-- The extensions that sources have. -/
def OfSource (ext : Bytes) : Prop :=
  ext = Bytes.ofText "codon" ∨ ext = Bytes.ofText "py" ∨ ext = Bytes.ofText "seq"

theorem mem_sourceExtensions_iff {ext : Bytes} : ext ∈ sourceExtensions ↔ OfSource ext := by
  simp [sourceExtensions, OfSource]

theorem OfSource.dot_not_mem {ext : Bytes} (ofSource : OfSource ext) : dot ∉ ext := by
  rcases ofSource with rfl | rfl | rfl <;> decide +kernel

/-- The file name of the path is a stem and an extension of sources. -/
structure NamesSource (path front stem ext : Bytes) : Prop where
  named : EndsInName path front (stem ++ dot :: ext)
  nonempty : stem ≠ []
  ofSource : OfSource ext

theorem defaultOutput_of_namesSource {stem ext : Bytes}
    (names : NamesSource path front stem ext) : defaultOutput path = front ++ stem := by
  have absent := names.ofSource.dot_not_mem
  unfold defaultOutput
  rw [splitFileName_eq_some_iff.mpr names.named]
  dsimp only
  rw [splitExtension_append names.nonempty absent]
  exact if_pos (mem_sourceExtensions_iff.mpr names.ofSource)

theorem defaultOutput_of_not_namesSource
    (other : ∀ front stem ext, ¬ NamesSource path front stem ext) : defaultOutput path = path := by
  unfold defaultOutput
  split
  · rfl
  · rename_i front name found
    split
    · rename_i stem ext split
      obtain ⟨nonempty, absent, rfl⟩ := splitExtension_eq_iff.mp split
      apply if_neg
      intro known
      exact other front stem ext
        ⟨splitFileName_eq_some_iff.mp found, nonempty, mem_sourceExtensions_iff.mp known⟩
    · rfl

/-- A path is cut in front of the extension of its stem and of nothing else. -/
structure CutsExtension (source output : Path) : Prop where
  /-- The path of a source is cut directly behind the stem. -/
  cut : ∀ front stem ext, NamesSource source front stem ext →
    output = front ++ stem ∧ output <+: source ∧ output ≠ source
  /-- Every other path is kept. -/
  kept : (∀ front stem ext, ¬ NamesSource source front stem ext) → output = source
  /-- This holds of a path without file name, -/
  nameless : Nameless source → output = source
  /-- of a name without dot, whatever stands before it, -/
  plain : ∀ front name, EndsInName source front name → dot ∉ name → output = source
  /-- of a name that only begins with a dot, -/
  hidden : ∀ front rest, EndsInName source front (dot :: rest) → dot ∉ rest → output = source
  /-- and of an extension that is no text. -/
  undecodable : ∀ front stem ext, EndsInName source front (stem ++ dot :: ext) → dot ∉ ext →
    (∀ text, Bytes.ofText text ≠ ext) → output = source

/-- A path whose file name does not split into a stem and an extension of sources is kept. -/
theorem EndsInName.defaultOutput_eq (ends : EndsInName path front name)
    (other : ∀ stem ext, stem ≠ [] → OfSource ext → name ≠ stem ++ dot :: ext) :
    defaultOutput path = path := by
  apply defaultOutput_of_not_namesSource
  rintro front stem ext ⟨named, nonempty, ofSource⟩
  exact other stem ext nonempty ofSource (ends.unique named).2

/-- The executable of a source is named after it.  Whatever the path, it is cut directly behind
the stem of its file name when this has one of the extensions of sources, and kept byte for byte
otherwise. -/
theorem default_output_cuts_extension (source : Path) :
    CutsExtension source (defaultOutput source) where
  cut := by
    intro front stem ext names
    obtain ⟨inert, -, rfl⟩ := names.named.split
    rw [defaultOutput_of_namesSource names]
    refine ⟨rfl, ⟨dot :: ext ++ inert, by simp⟩, ?_⟩
    simp
  kept := defaultOutput_of_not_namesSource
  nameless := by
    intro nameless
    unfold defaultOutput
    rw [splitFileName_eq_none_iff.mpr nameless]
  plain := by
    intro front name ends undotted
    apply ends.defaultOutput_eq
    rintro stem ext - - rfl
    simp at undotted
  hidden := by
    intro front rest ends undotted
    apply ends.defaultOutput_eq
    intro stem ext nonempty ofSource split
    have cut : [] ++ dot :: rest = stem ++ dot :: ext := split
    obtain ⟨rfl, -⟩ := append_separator_inj undotted ofSource.dot_not_mem cut
    exact nonempty rfl
  undecodable := by
    intro front stem ext ends undotted noText
    apply ends.defaultOutput_eq
    intro other source nonempty ofSource split
    obtain ⟨-, rfl⟩ := append_separator_inj undotted ofSource.dot_not_mem split
    rcases ofSource with isText | isText | isText
    all_goals exact noText _ isText.symm

/-- Only the last extension is cut off, together with what does not count behind it. -/
example :
    defaultOutput (Bytes.ofText "src.py/main.codon.seq/.//") =
      Bytes.ofText "src.py/main.codon" := by
  decide +kernel

end CompileDriver.Path
