import CompileDriver.Text.Utf8
import Mathlib.Algebra.Group.Nat.Defs

/-!
# Lossy decoding piece by piece

A byte below 0x80 stands for a character of its own wherever it occurs: it ends whatever is
unfinished before it, and what comes behind it is decoded as if nothing had come before.
So a path can be decoded segment by segment, its ASCII part is kept, and no slash comes out
that has not gone in.

What encodes a text is decoded to that text, and nothing else survives the way to a text and
back.
-/

namespace CompileDriver

namespace Bytes

/-- The encoding of a text is that of its characters, one after the other. -/
theorem ofText_eq (text : String) : ofText text = text.toList.flatMap String.utf8EncodeChar := by
  simp [ofText, String.toUTF8, ← String.utf8Encode_toList, List.utf8Encode, List.data_toByteArray]

theorem ofText_append (first second : String) :
    ofText (first ++ second) = ofText first ++ ofText second := by
  simp [ofText_eq]

theorem ofText_injective {first second : String} (same : ofText first = ofText second) :
    first = second := by
  rw [← String.toByteArray_inj]
  apply ByteArray.ext
  exact Array.toList_inj.mp same

end Bytes

theorem push_append (front back : String) (c : Char) :
    (front ++ back).push c = front ++ back.push c := by
  rw [← String.toByteArray_inj]
  simp [String.toByteArray_push, ByteArray.append_assoc]

/-- The encoding of an ASCII character is one byte, and that of another one has none of the
ASCII bytes. -/
theorem mem_utf8EncodeChar {byte : UInt8} {c : Char} (ascii : byte < 0x80)
    (member : byte ∈ String.utf8EncodeChar c) : c = Char.ofNat byte.toNat := by
  have small : byte.toNat < 128 := ascii
  have code : c.val.toNat = byte.toNat := by
    unfold String.utf8EncodeChar at member
    dsimp only at member
    split at member
    · rename_i isAscii
      rw [List.mem_singleton.mp member, UInt8.toNat_ofNat']
      omega
    · -- all bytes of a longer encoding are at least 0x80
      exfalso
      have large {n : Nat} (isByte : byte = UInt8.ofNat n) (atLeast : 128 ≤ n) (atMost : n < 256) :
          False := by
        rw [isByte, UInt8.toNat_ofNat', Nat.mod_eq_of_lt atMost] at small
        omega
      split at member
      · simp only [List.mem_cons, List.not_mem_nil, or_false] at member
        rcases member with isByte | isByte
        all_goals exact large isByte (by omega) (by omega)
      · split at member
        · simp only [List.mem_cons, List.not_mem_nil, or_false] at member
          rcases member with isByte | isByte | isByte
          all_goals exact large isByte (by omega) (by omega)
        · simp only [List.mem_cons, List.not_mem_nil, or_false] at member
          rcases member with isByte | isByte | isByte | isByte
          all_goals exact large isByte (by omega) (by omega)
  rw [← code]
  exact (Char.ofNat_toNat c).symm

theorem utf8EncodeChar_ascii {c : Char} (ascii : c.toNat < 128) :
    String.utf8EncodeChar c = [UInt8.ofNat c.toNat] := by
  have short : c.toNat ≤ 127 := Nat.le_of_lt_succ ascii
  simp [String.utf8EncodeChar, short]

theorem toNat_ofNat {n : Nat} (valid : n.isValidChar) : (Char.ofNat n).toNat = n := by
  rw [Char.ofNat, dif_pos valid]
  rfl

theorem toNat_ofNat_ascii {byte : UInt8} (ascii : byte < 0x80) :
    (Char.ofNat byte.toNat).toNat = byte.toNat := by
  have small : byte.toNat < 128 := ascii
  exact toNat_ofNat (.inl (by omega))

namespace Utf8

/-- Whether a character is an ASCII one.  The null character is left out: it also stands for
every number that is no code point. -/
def IsAscii (c : Char) : Prop :=
  0 < c.toNat ∧ c.toNat < 128

instance (c : Char) : Decidable (IsAscii c) :=
  inferInstanceAs (Decidable (_ ∧ _))

/-- An ASCII character has no other number than its own. -/
theorem ofNat_ne {c : Char} (ascii : IsAscii c) {n : Nat} (other : n ≠ c.toNat) :
    Char.ofNat n ≠ c := by
  intro same
  by_cases valid : n.isValidChar
  · have code := toNat_ofNat valid
    rw [same] at code
    exact other code.symm
  · have null : Char.ofNat n = Char.ofNat 0 := by
      rw [Char.ofNat, dif_neg valid]
      rfl
    rw [← same, null] at ascii
    exact absurd ascii (by decide)

/-! ## Unfinished characters -/

/-- What can come of an unfinished character is no ASCII character, and no ASCII byte
continues it. -/
structure Unfinished.Sound (unfinished : Unfinished) : Prop where
  lowest : 0x80 ≤ unfinished.lowest.toNat
  large : 0x80 ≤
    (unfinished.point * 64 + (unfinished.lowest.toNat - 0x80)) * 64 ^ (unfinished.missing - 1)

namespace Decoder

theorem sound_announced {byte : UInt8} {unfinished : Unfinished}
    (found : announced byte = some unfinished) : unfinished.Sound := by
  unfold announced at found
  split at found
  · rename_i range
    have atLeast : 0xC2 ≤ byte.toNat := by simpa using UInt8.le_iff_toNat_le.mp range.1
    rw [← Option.some.inj found]
    exact ⟨Nat.le_refl 0x80, by simp; omega⟩
  split at found
  · rename_i range
    have atLeast : 0xE0 ≤ byte.toNat := by simpa using UInt8.le_iff_toNat_le.mp range.1
    rw [← Option.some.inj found]
    by_cases first : byte = 0xE0
    · subst first
      exact ⟨by decide, by decide⟩
    · have above : byte.toNat ≠ 0xE0 := fun same => first (UInt8.toNat_inj.mp same)
      exact ⟨by simp [first], by simp [first]; omega⟩
  split at found
  · rename_i range
    have atLeast : 0xF0 ≤ byte.toNat := by simpa using UInt8.le_iff_toNat_le.mp range.1
    rw [← Option.some.inj found]
    by_cases first : byte = 0xF0
    · subst first
      exact ⟨by decide, by decide⟩
    · have above : byte.toNat ≠ 0xF0 := fun same => first (UInt8.toNat_inj.mp same)
      exact ⟨by simp [first], by simp [first]; omega⟩
  · cases found

/-- Whatever is unfinished is sound. -/
def Sound (decoder : Decoder) : Prop :=
  ∀ unfinished, decoder.unfinished = some unfinished → unfinished.Sound

theorem sound_first (decoder : Decoder) (byte : UInt8) : (decoder.first byte).Sound := by
  intro unfinished found
  unfold first at found
  split at found
  · cases found
  · split at found
    · rename_i announcement
      cases found
      exact sound_announced announcement
    · cases found

theorem sound_step {decoder : Decoder} (sound : decoder.Sound) (byte : UInt8) :
    (decoder.step byte).Sound := by
  unfold step
  split
  · exact sound_first decoder byte
  · rename_i unfinished reading
    obtain ⟨lowest, large⟩ := sound unfinished reading
    split
    · rename_i range
      dsimp only
      split
      · rintro _ ⟨⟩
      · rename_i more
        intro next continued
        rw [← Option.some.inj continued]
        refine ⟨Nat.le_refl 0x80, ?_⟩
        have atLeast : unfinished.lowest.toNat ≤ byte.toNat := UInt8.le_iff_toNat_le.mp range.1
        obtain ⟨later, two⟩ : ∃ later, unfinished.missing = later + 2 :=
          ⟨unfinished.missing - 2, by omega⟩
        have grown : (unfinished.point * 64 + (unfinished.lowest.toNat - 0x80)) * 64 ^ (later + 1) ≤
            (unfinished.point * 64 + (byte.toNat - 0x80)) * 64 ^ (later + 1) :=
          Nat.mul_le_mul_right _ (by omega)
        rw [two, show later + 2 - 1 = later + 1 from rfl] at large
        have enough := Nat.le_trans large grown
        rw [Nat.pow_succ'] at enough
        simpa [two, Nat.mul_assoc] using enough
    · exact sound_first _ byte

theorem sound_foldl {decoder : Decoder} (sound : decoder.Sound) (bytes : Bytes) :
    (bytes.foldl step decoder).Sound := by
  induction bytes generalizing decoder with
  | nil => exact sound
  | cons byte rest ih => exact ih (sound_step sound byte)

/-! ## ASCII bytes -/

/-- The decoder with a text in front of what it has decoded. -/
def behind (front : Decoder) (decoder : Decoder) : Decoder :=
  { decoder with
    text := front.text ++ decoder.text
    intact := front.intact && decoder.intact }

theorem emit_behind (front decoder : Decoder) (c : Char) :
    (behind front decoder).emit c = behind front (decoder.emit c) := by
  simp [behind, emit, push_append]

theorem replace_behind (front decoder : Decoder) :
    (behind front decoder).replace = behind front decoder.replace := by
  simp [behind, replace, emit, push_append]

theorem first_behind (front decoder : Decoder) (byte : UInt8) :
    (behind front decoder).first byte = behind front (decoder.first byte) := by
  unfold first
  split
  · exact emit_behind front decoder _
  · split
    · rfl
    · exact replace_behind front decoder

/-- What stands in front is not looked at. -/
theorem step_behind (front decoder : Decoder) (byte : UInt8) :
    (behind front decoder).step byte = behind front (decoder.step byte) := by
  unfold step
  rw [show (behind front decoder).unfinished = decoder.unfinished from rfl]
  split
  · exact first_behind front decoder byte
  · split
    · dsimp only
      split
      · exact emit_behind front decoder _
      · rfl
    · rw [replace_behind, first_behind]

theorem foldl_behind (front decoder : Decoder) (bytes : Bytes) :
    bytes.foldl step (behind front decoder) = behind front (bytes.foldl step decoder) := by
  induction bytes generalizing decoder with
  | nil => rfl
  | cons byte rest ih => rw [List.foldl_cons, List.foldl_cons, step_behind, ih]

theorem finish_behind (front decoder : Decoder) :
    (behind front decoder).finish = behind front decoder.finish := by
  unfold finish
  rw [show (behind front decoder).unfinished = decoder.unfinished from rfl]
  split
  · exact replace_behind front decoder
  · rfl

/-- An ASCII byte ends what is unfinished, and is a character. -/
theorem step_ascii {decoder : Decoder} (sound : decoder.Sound) {byte : UInt8}
    (ascii : byte < 0x80) :
    decoder.step byte = decoder.finish.emit (Char.ofNat byte.toNat) := by
  unfold step finish
  split
  · rename_i idle
    simp [idle, first, ascii]
  · rename_i unfinished reading
    have lowest := (sound unfinished reading).lowest
    have below : ¬ unfinished.lowest ≤ byte := by
      intro atLeast
      have atLeast : unfinished.lowest.toNat ≤ byte.toNat := UInt8.le_iff_toNat_le.mp atLeast
      have small : byte.toNat < 128 := ascii
      omega
    simp [below, reading, first, ascii]

end Decoder

/-- Text can be decoded in two pieces, around an ASCII byte. -/
theorem lossy_append {byte : UInt8} (ascii : byte < 0x80) (front back : Bytes) :
    lossy (front ++ byte :: back) = (lossy front).push (Char.ofNat byte.toNat) ++ lossy back := by
  have sound : (front.foldl Decoder.step {}).Sound := by
    apply Decoder.sound_foldl
    intro unfinished found
    cases found
  let middle := (front.foldl Decoder.step {}).finish.emit (Char.ofNat byte.toNat)
  have apart : middle = Decoder.behind middle {} := by
    simp [Decoder.behind, middle, Decoder.emit]
  unfold lossy decodeAll
  rw [List.foldl_append, List.foldl_cons, Decoder.step_ascii sound ascii]
  change (List.foldl Decoder.step middle back).finish.text = _
  rw [apart, Decoder.foldl_behind, Decoder.finish_behind]
  rfl

/-- The same in bytes. -/
theorem ofText_lossy_append {byte : UInt8} (ascii : byte < 0x80) (front back : Bytes) :
    Bytes.ofText (lossy (front ++ byte :: back)) =
      Bytes.ofText (lossy front) ++ byte :: Bytes.ofText (lossy back) := by
  have encoded : String.utf8EncodeChar (Char.ofNat byte.toNat) = [byte] := by
    rw [utf8EncodeChar_ascii, toNat_ofNat_ascii ascii, UInt8.ofNat_toNat]
    exact (toNat_ofNat_ascii ascii).symm ▸ ascii
  rw [lossy_append ascii, Bytes.ofText_append, Bytes.ofText_eq, String.toList_push,
    List.flatMap_append, ← Bytes.ofText_eq, List.flatMap_singleton, encoded, List.append_assoc]
  rfl

/-- ASCII bytes are decoded to themselves. -/
theorem ofText_lossy {bytes : Bytes} (ascii : ∀ byte ∈ bytes, byte < 0x80) :
    Bytes.ofText (lossy bytes) = bytes := by
  induction bytes with
  | nil => rfl
  | cons byte rest ih =>
      obtain ⟨small, smallRest⟩ := List.forall_mem_cons.mp ascii
      have decoded : Bytes.ofText (lossy (byte :: rest)) = byte :: Bytes.ofText (lossy rest) :=
        ofText_lossy_append small [] rest
      rw [decoded, ih smallRest]

/-! ## Characters that are left out -/

namespace Decoder

/-- A character has not been decoded. -/
def Lacks (decoder : Decoder) (c : Char) : Prop :=
  c ∉ decoder.text.toList

variable {decoder : Decoder} {c : Char}

theorem Lacks.emit (lacks : decoder.Lacks c) {d : Char} (other : d ≠ c) :
    (decoder.emit d).Lacks c := by
  simpa [Lacks, Decoder.emit, String.toList_push] using And.intro lacks (Ne.symm other)

section

variable (ascii : IsAscii c)

include ascii

theorem Lacks.replace (lacks : decoder.Lacks c) : decoder.replace.Lacks c := by
  have small := ascii.2
  exact lacks.emit (ofNat_ne ascii (by omega))

theorem Lacks.first (lacks : decoder.Lacks c) {byte : UInt8} (other : byte.toNat ≠ c.toNat) :
    (decoder.first byte).Lacks c := by
  unfold Decoder.first
  split
  · exact lacks.emit (ofNat_ne ascii other)
  · split
    · exact lacks
    · exact lacks.replace ascii

theorem Lacks.step (lacks : decoder.Lacks c) (sound : decoder.Sound) {byte : UInt8}
    (other : byte.toNat ≠ c.toNat) : (decoder.step byte).Lacks c := by
  unfold Decoder.step
  split
  · exact lacks.first ascii other
  · rename_i unfinished reading
    obtain ⟨lowest, large⟩ := sound unfinished reading
    split
    · rename_i range
      have atLeast : unfinished.lowest.toNat ≤ byte.toNat := UInt8.le_iff_toNat_le.mp range.1
      dsimp only
      split
      · rename_i last
        rw [show unfinished.missing - 1 = 0 by omega, Nat.pow_zero, Nat.mul_one] at large
        have small := ascii.2
        exact lacks.emit (ofNat_ne ascii (by omega))
      · exact lacks
    · exact (lacks.replace ascii).first ascii other

theorem Lacks.foldl (lacks : decoder.Lacks c) (sound : decoder.Sound) {bytes : Bytes}
    (absent : ∀ byte ∈ bytes, byte.toNat ≠ c.toNat) :
    (bytes.foldl Decoder.step decoder).Lacks c := by
  induction bytes generalizing decoder with
  | nil => exact lacks
  | cons byte rest ih =>
      obtain ⟨other, others⟩ := List.forall_mem_cons.mp absent
      exact ih (lacks.step ascii sound other) (sound_step sound byte) others

end

end Decoder

/-- No ASCII character comes out that has not gone in. -/
theorem not_mem_lossy {byte : UInt8} (ascii : 0 < byte ∧ byte < 0x80) {bytes : Bytes}
    (absent : byte ∉ bytes) : byte ∉ Bytes.ofText (lossy bytes) := by
  let c := Char.ofNat byte.toNat
  have code : c.toNat = byte.toNat := toNat_ofNat_ascii ascii.2
  have isAscii : IsAscii c := by
    have positive : 0 < byte.toNat := ascii.1
    have small : byte.toNat < 128 := ascii.2
    exact ⟨by omega, by omega⟩
  have start : ({} : Decoder).Lacks c := by simp [Decoder.Lacks]
  have decoded := start.foldl isAscii nofun fun other member same =>
    absent (UInt8.toNat_inj.mp (same.trans code) ▸ member)
  have finished : c ∉ (lossy bytes).toList := by
    unfold lossy decodeAll Decoder.finish
    split
    · exact decoded.replace isAscii
    · exact decoded
  rw [Bytes.ofText_eq]
  intro member
  obtain ⟨other, inText, encoded⟩ := List.mem_flatMap.mp member
  rw [mem_utf8EncodeChar ascii.2 encoded] at inText
  exact finished inText

/-- No slash comes out that has not gone in. -/
theorem slash_not_mem_lossy {bytes : Bytes} (absent : Bytes.slash ∉ bytes) :
    Bytes.slash ∉ Bytes.ofText (lossy bytes) :=
  not_mem_lossy (by decide) absent

namespace Decoder

variable {decoder : Decoder}

theorem text_emit_ne_empty (decoder : Decoder) (c : Char) : (decoder.emit c).text ≠ "" := by
  intro empty
  have chars := congrArg String.toList empty
  simp [emit, String.toList_push] at chars

/-- Something was decoded, or a character is unfinished. -/
def HasRead (decoder : Decoder) : Prop :=
  decoder.text ≠ "" ∨ decoder.unfinished.isSome = true

theorem hasRead_first (decoder : Decoder) (byte : UInt8) : (decoder.first byte).HasRead := by
  unfold first
  split
  · exact .inl (text_emit_ne_empty decoder _)
  · split
    · exact .inr rfl
    · exact .inl (text_emit_ne_empty decoder _)

theorem hasRead_step (decoder : Decoder) (byte : UInt8) : (decoder.step byte).HasRead := by
  unfold step
  split
  · exact hasRead_first decoder byte
  · split
    · dsimp only
      split
      · exact .inl (text_emit_ne_empty decoder _)
      · exact .inr rfl
    · exact hasRead_first _ byte

theorem HasRead.text_finish (hasRead : decoder.HasRead) : decoder.finish.text ≠ "" := by
  unfold finish
  split
  · exact text_emit_ne_empty decoder _
  · rename_i idle
    exact hasRead.resolve_right idle

end Decoder

/-- Something comes out when something has gone in. -/
theorem eq_nil_of_lossy {bytes : Bytes} (nothing : Bytes.ofText (lossy bytes) = []) :
    bytes = [] := by
  rcases List.eq_nil_or_concat bytes with empty | ⟨front, last, rfl⟩
  · exact empty
  · have decoded : lossy (front ++ [last]) ≠ "" := by
      rw [lossy, decodeAll, List.foldl_append]
      exact (Decoder.hasRead_step _ last).text_finish
    rw [List.concat_eq_append] at nothing
    exact absurd (Bytes.ofText_injective nothing) decoded

/-- An ASCII text comes out only of itself. -/
theorem ofText_lossy_eq_iff {bytes text : Bytes} (ascii : ∀ byte ∈ text, 0 < byte ∧ byte < 0x80) :
    Bytes.ofText (lossy bytes) = text ↔ bytes = text := by
  constructor
  · intro decoded
    induction text generalizing bytes with
    | nil => exact eq_nil_of_lossy decoded
    | cons byte rest ih =>
        obtain ⟨isAscii, others⟩ := List.forall_mem_cons.mp ascii
        have present : byte ∈ bytes := Decidable.byContradiction fun absent =>
          not_mem_lossy isAscii absent (decoded ▸ List.mem_cons_self)
        -- nothing stands before the first one, or something would come out before it
        obtain ⟨front, back, rfl, first⟩ := List.eq_append_cons_of_mem present
        have pieces : Bytes.ofText (lossy front) ++ byte :: Bytes.ofText (lossy back) =
            byte :: rest := by
          rw [← decoded, ofText_lossy_append isAscii.2]
        have empty : front = [] := by
          apply eq_nil_of_lossy
          cases before : Bytes.ofText (lossy front) with
          | nil => rfl
          | cons other more =>
              rw [before, List.cons_append] at pieces
              have same : other = byte := (List.cons.inj pieces).1
              exact absurd (before ▸ same ▸ List.mem_cons_self) (not_mem_lossy isAscii first)
        subst empty
        rw [ih others (List.cons.inj pieces).2]
        rfl
  · rintro rfl
    exact ofText_lossy fun byte member => (ascii byte member).2

/-! ## Encoded texts -/

namespace Decoder

/-- A byte that begins a character of two bytes. -/
theorem announced_two {n : Nat} (atLeast : 0xC2 ≤ n) (atMost : n ≤ 0xDF) :
    announced (UInt8.ofNat n) = some { point := n - 0xC0, missing := 1 } := by
  have code : (UInt8.ofNat n).toNat = n := by rw [UInt8.toNat_ofNat']; omega
  simp [announced, UInt8.le_iff_toNat_le, code, atLeast, atMost]

/-- A byte that begins a character of three bytes. -/
theorem announced_three {n : Nat} (atLeast : 0xE0 ≤ n) (atMost : n ≤ 0xEF) :
    announced (UInt8.ofNat n) = some
      { point := n - 0xE0
        missing := 2
        lowest := if n = 0xE0 then 0xA0 else 0x80
        highest := if n = 0xED then 0x9F else 0xBF } := by
  have code : (UInt8.ofNat n).toNat = n := by rw [UInt8.toNat_ofNat']; omega
  have notTwo : ¬ n ≤ 0xDF := by omega
  simp [announced, UInt8.le_iff_toNat_le, ← UInt8.toNat_inj, code, atLeast, atMost, notTwo]

/-- A byte that begins a character of four bytes. -/
theorem announced_four {n : Nat} (atLeast : 0xF0 ≤ n) (atMost : n ≤ 0xF4) :
    announced (UInt8.ofNat n) = some
      { point := n - 0xF0
        missing := 3
        lowest := if n = 0xF0 then 0x90 else 0x80
        highest := if n = 0xF4 then 0x8F else 0xBF } := by
  have code : (UInt8.ofNat n).toNat = n := by rw [UInt8.toNat_ofNat']; omega
  have notTwo : ¬ n ≤ 0xDF := by omega
  have notThree : ¬ n ≤ 0xEF := by omega
  simp [announced, UInt8.le_iff_toNat_le, ← UInt8.toNat_inj, code, atLeast, atMost, notTwo,
    notThree]

/-- A first byte begins the character that it announces. -/
theorem first_announced (decoder : Decoder) {byte : UInt8} {unfinished : Unfinished}
    (found : announced byte = some unfinished) :
    decoder.first byte = { decoder with unfinished := some unfinished } := by
  have long : ¬ byte < 0x80 := by
    intro ascii
    have small : byte.toNat < 128 := ascii
    simp only [announced, UInt8.le_iff_toNat_le] at found
    split at found
    · rename_i range
      have atLeast : 194 ≤ byte.toNat := range.1
      omega
    split at found
    · rename_i range
      have atLeast : 224 ≤ byte.toNat := range.1
      omega
    split at found
    · rename_i range
      have atLeast : 240 ≤ byte.toNat := range.1
      omega
    · cases found
  rw [first, if_neg long, found]

section

variable (decoder : Decoder) {unfinished : Unfinished} {n : Nat}
  (lowest : unfinished.lowest.toNat ≤ n + 128) (highest : n + 128 ≤ unfinished.highest.toNat)

include lowest highest

theorem step_within :
    ({ decoder with unfinished := some unfinished } : Decoder).step (UInt8.ofNat (n + 128)) =
      if unfinished.missing ≤ 1 then decoder.emit (Char.ofNat (unfinished.point * 64 + n))
      else
        { decoder with
          unfinished :=
            some { point := unfinished.point * 64 + n, missing := unfinished.missing - 1 } } := by
  have small := unfinished.highest.toNat_lt
  have code : (UInt8.ofNat (n + 128)).toNat = n + 128 := by rw [UInt8.toNat_ofNat']; omega
  have range : unfinished.lowest ≤ UInt8.ofNat (n + 128) ∧
      UInt8.ofNat (n + 128) ≤ unfinished.highest := by
    simp only [UInt8.le_iff_toNat_le, code]
    exact ⟨lowest, highest⟩
  rw [step]
  dsimp only
  rw [if_pos range, code, Nat.add_sub_cancel]
  rfl

/-- A byte that continues a character. -/
theorem step_more (more : 1 < unfinished.missing) :
    ({ decoder with unfinished := some unfinished } : Decoder).step (UInt8.ofNat (n + 128)) =
      { decoder with
        unfinished :=
          some { point := unfinished.point * 64 + n, missing := unfinished.missing - 1 } } := by
  rw [step_within decoder lowest highest, if_neg (by omega)]

/-- A byte that ends a character. -/
theorem step_last (last : unfinished.missing = 1) :
    ({ decoder with unfinished := some unfinished } : Decoder).step (UInt8.ofNat (n + 128)) =
      decoder.emit (Char.ofNat (unfinished.point * 64 + n)) := by
  rw [step_within decoder lowest highest, if_pos (by omega)]

end

/-- The encoding of a character is decoded to that character. -/
theorem foldl_utf8EncodeChar {decoder : Decoder} (idle : decoder.unfinished = none) (c : Char) :
    (String.utf8EncodeChar c).foldl step decoder = decoder.emit c := by
  have first_step (byte : UInt8) : decoder.step byte = decoder.first byte := by rw [step, idle]
  have valid : c.val.toNat < 0xD800 ∨ 0xDFFF < c.val.toNat ∧ c.val.toNat < 0x110000 := c.valid
  have whole {n : Nat} (same : n = c.val.toNat) : Char.ofNat n = c := by
    rw [same]
    exact Char.ofNat_toNat c
  unfold String.utf8EncodeChar
  dsimp only
  generalize c.val.toNat = v at *
  split
  · have ascii : UInt8.ofNat v < 0x80 := by
      rw [UInt8.lt_iff_toNat_lt, UInt8.toNat_ofNat']
      change v % 256 < 128
      omega
    rw [List.foldl_cons, List.foldl_nil, first_step, first, if_pos ascii, whole]
    rw [UInt8.toNat_ofNat']
    omega
  split
  · have begun := decoder.first_announced
      (announced_two (n := v / 64 % 32 + 192) (by omega) (by omega))
    rw [List.foldl_cons, first_step, begun, List.foldl_cons, List.foldl_nil,
      step_last decoder (by simp) (by simp; omega) rfl, whole]
    dsimp only
    omega
  split
  · have begun := decoder.first_announced
      (announced_three (n := v / 4096 % 16 + 224) (by omega) (by omega))
    rw [List.foldl_cons, first_step, begun, List.foldl_cons, List.foldl_cons, List.foldl_nil,
      step_more decoder _ _ (by simp), step_last decoder (by simp) (by simp; omega) rfl, whole]
    · dsimp only
      omega
    · dsimp only
      split <;> simp <;> omega
    · dsimp only
      split <;> simp <;> omega
  · have begun := decoder.first_announced
      (announced_four (n := v / 262144 % 8 + 240) (by omega) (by omega))
    rw [List.foldl_cons, first_step, begun, List.foldl_cons, List.foldl_cons, List.foldl_cons,
      List.foldl_nil, step_more decoder _ _ (by simp),
      step_more decoder (by simp) (by simp; omega) (by simp),
      step_last decoder (by simp) (by simp; omega) rfl, whole]
    · dsimp only
      omega
    · dsimp only
      split <;> simp <;> omega
    · dsimp only
      split <;> simp <;> omega

end Decoder

/-- The encoding of a text is decoded to that text. -/
theorem lossy_ofText (text : String) : lossy (Bytes.ofText text) = text := by
  have decoded (chars : List Char) (decoder : Decoder) (idle : decoder.unfinished = none) :
      (chars.flatMap String.utf8EncodeChar).foldl Decoder.step decoder =
        { decoder with text := decoder.text ++ String.ofList chars } := by
    induction chars generalizing decoder with
    | nil => simp
    | cons c rest ih =>
        rw [List.flatMap_cons, List.foldl_append, Decoder.foldl_utf8EncodeChar idle, ih _ rfl]
        simp [Decoder.emit, ← String.toList_inj]
        exact idle.symm
  unfold lossy decodeAll
  rw [Bytes.ofText_eq, decoded _ _ rfl]
  simp [Decoder.finish]

/-- Decoding loses nothing exactly of what encodes some text. -/
theorem ofText_lossy_iff {bytes : Bytes} :
    Bytes.ofText (lossy bytes) = bytes ↔ ∃ text, Bytes.ofText text = bytes := by
  constructor
  · exact fun same => ⟨_, same⟩
  · rintro ⟨text, rfl⟩
    rw [lossy_ofText]

end Utf8

end CompileDriver
