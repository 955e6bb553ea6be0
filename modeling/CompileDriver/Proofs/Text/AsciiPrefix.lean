import CompileDriver.Proofs.Text.Utf8

/-!
# How a decoded text begins

An ASCII character at the beginning of a decoded text has been decoded from its own byte,
whatever stands behind it: neither an ill-formed piece nor a longer character can be taken
for it.  So whether a decoded text begins with an ASCII text can be told from the bytes.
-/

namespace CompileDriver.Utf8

namespace Decoder

variable {decoder : Decoder} {c : Char}

/-- The text does not begin with a character, and will not. -/
structure Shuns (c : Char) (decoder : Decoder) : Prop where
  head : decoder.text.toList.head? ≠ some c
  begun : decoder.text = "" → decoder.unfinished.isSome = true

theorem Shuns.emit (head : decoder.text.toList.head? ≠ some c) {next : Char}
    (other : decoder.text = "" → next ≠ c) : (decoder.emit next).Shuns c where
  head := by
    rw [Decoder.emit, String.toList_push, List.head?_append]
    by_cases empty : decoder.text = ""
    · simpa [empty] using other empty
    · obtain ⟨first, rest, text⟩ :=
        List.exists_cons_of_ne_nil fun nothing => empty (String.toList_eq_nil_iff.mp nothing)
      simpa [text] using head
  begun empty := by simp [Decoder.emit] at empty

theorem Shuns.replace (head : decoder.text.toList.head? ≠ some c) (ascii : IsAscii c) :
    decoder.replace.Shuns c := by
  have emitted : (decoder.emit (Char.ofNat 0xFFFD)).Shuns c := by
    refine .emit head fun _ => ?_
    rintro rfl
    exact absurd ascii (by decide)
  exact ⟨emitted.head, emitted.begun⟩

theorem Shuns.first (head : decoder.text.toList.head? ≠ some c) (ascii : IsAscii c) {byte : UInt8}
    (other : decoder.text = "" → byte.toNat ≠ c.toNat) : (decoder.first byte).Shuns c := by
  unfold Decoder.first
  split
  · exact .emit head fun empty => ofNat_ne ascii (other empty)
  · split
    · exact ⟨head, fun _ => rfl⟩
    · exact .replace head ascii

theorem Shuns.step (shuns : decoder.Shuns c) (sound : decoder.Sound) (ascii : IsAscii c)
    (byte : UInt8) : (decoder.step byte).Shuns c := by
  unfold Decoder.step
  split
  · rename_i idle
    refine .first shuns.head ascii fun empty => ?_
    have reading := shuns.begun empty
    simp [idle] at reading
  · rename_i unfinished reading
    obtain ⟨lowest, large⟩ := sound unfinished reading
    split
    · rename_i range
      have atLeast : unfinished.lowest.toNat ≤ byte.toNat := UInt8.le_iff_toNat_le.mp range.1
      dsimp only
      split
      · -- a character of several bytes is none of the ASCII ones
        rename_i last
        rw [show unfinished.missing - 1 = 0 by omega, Nat.pow_zero, Nat.mul_one] at large
        refine .emit shuns.head fun _ => ofNat_ne ascii ?_
        have small := ascii.2
        omega
      · exact ⟨shuns.head, fun _ => rfl⟩
    · have replaced := Shuns.replace shuns.head ascii
      refine .first replaced.head ascii fun empty => ?_
      simp [Decoder.replace, Decoder.emit] at empty

theorem Shuns.foldl (shuns : decoder.Shuns c) (sound : decoder.Sound) (ascii : IsAscii c)
    (bytes : Bytes) : (bytes.foldl Decoder.step decoder).Shuns c := by
  induction bytes generalizing decoder with
  | nil => exact shuns
  | cons byte rest ih => exact ih (shuns.step sound ascii byte) (sound_step sound byte)

end Decoder

theorem lossy_cons {c : Char} (ascii : IsAscii c) (rest : Bytes) :
    (lossy (UInt8.ofNat c.toNat :: rest)).toList = c :: (lossy rest).toList := by
  have small : UInt8.ofNat c.toNat < 0x80 := by
    rw [UInt8.lt_iff_toNat_lt, UInt8.toNat_ofNat', Nat.mod_eq_of_lt (by have := ascii.2; omega)]
    exact ascii.2
  have code : (UInt8.ofNat c.toNat).toNat = c.toNat := by
    rw [UInt8.toNat_ofNat', Nat.mod_eq_of_lt (by have := ascii.2; omega)]
  have decoded := lossy_append small [] rest
  rw [List.nil_append] at decoded
  rw [decoded, code, Char.ofNat_toNat]
  simp [lossy, decodeAll, Decoder.finish]

/-- An ASCII character at the beginning comes from its own byte. -/
theorem head?_lossy {c : Char} (ascii : IsAscii c) {byte : UInt8} (rest : Bytes)
    (other : byte ≠ UInt8.ofNat c.toNat) : (lossy (byte :: rest)).toList.head? ≠ some c := by
  have different : byte.toNat ≠ c.toNat := by
    intro same
    apply other
    rw [← same, UInt8.ofNat_toNat]
  have first : (({} : Decoder).first byte).Shuns c :=
    .first (by simp) ascii fun _ => different
  have sound := Decoder.sound_first {} byte
  have decoded := first.foldl sound ascii rest
  unfold lossy decodeAll Decoder.finish
  rw [List.foldl_cons]
  split
  · exact (Decoder.Shuns.replace decoded.head ascii).head
  · exact decoded.head

/-- A decoded text begins with an ASCII text just when the bytes begin with its bytes. -/
theorem isPrefix_lossy_iff {text : List Char} (ascii : ∀ c ∈ text, IsAscii c) (bytes : Bytes) :
    text <+: (lossy bytes).toList ↔ text.map (fun c => UInt8.ofNat c.toNat) <+: bytes := by
  induction text generalizing bytes with
  | nil => simp
  | cons c text ih =>
      obtain ⟨asciiFirst, asciiRest⟩ := List.forall_mem_cons.mp ascii
      cases bytes with
      | nil => simp [lossy, decodeAll, Decoder.finish]
      | cons byte rest =>
          by_cases same : byte = UInt8.ofNat c.toNat
          · subst same
            rw [lossy_cons asciiFirst, List.map_cons, List.cons_prefix_cons, List.cons_prefix_cons,
              ih asciiRest]
            simp
          · constructor
            · rintro ⟨more, decoded⟩
              apply absurd _ (head?_lossy asciiFirst rest same)
              rw [← decoded]
              rfl
            · rw [List.map_cons, List.cons_prefix_cons]
              rintro ⟨first, -⟩
              exact absurd first.symm same

end CompileDriver.Utf8
