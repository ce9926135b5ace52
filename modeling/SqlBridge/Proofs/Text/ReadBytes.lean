import SqlBridge.Text.Utf8

/-! # Bytes that are read as text

Whatever the bytes are, they are read as text. Valid bytes are read as the text
that they encode, and what follows them is read as if it stood alone. Bad bytes do
not reach further either: reading starts afresh at every byte that does not
continue a character, so that a valid text behind them is read as it is.
-/

namespace SqlBridge.Text.Utf8

/-! ## Characters -/

theorem toNat_ofNat {n : Nat} (small : n < 256) : (UInt8.ofNat n).toNat = n := by
  rw [UInt8.toNat_ofNat', Nat.mod_eq_of_lt small]

theorem continuation_next {low high : UInt8} {bits : Nat} (lowest : low.toNat ≤ bits + 128)
    (highest : bits + 128 ≤ high.toNat) (more acc : Nat) (bytes : List UInt8) :
    continuation (more + 1) acc low high (UInt8.ofNat (bits + 128) :: bytes) =
      continuation more (acc * 64 + bits) 0x80 0xBF bytes := by
  have byte : (UInt8.ofNat (bits + 128)).toNat = bits + 128 :=
    toNat_ofNat (Nat.lt_of_le_of_lt highest high.toNat_lt)
  have within : low ≤ UInt8.ofNat (bits + 128) ∧ UInt8.ofNat (bits + 128) ≤ high := by
    rw [UInt8.le_iff_toNat_le, UInt8.le_iff_toNat_le, byte]
    exact ⟨lowest, highest⟩
  rw [continuation, if_pos within, byte, Nat.add_sub_cancel]

theorem continuation_last {bits : Nat} (small : bits < 64) (more acc : Nat) (bytes : List UInt8) :
    continuation (more + 1) acc 0x80 0xBF (UInt8.ofNat (bits + 128) :: bytes) =
      continuation more (acc * 64 + bits) 0x80 0xBF bytes := by
  apply continuation_next
  · exact Nat.le_add_left _ _
  · change bits + 128 ≤ 191
    omega

section Widths
variable {v : Nat} (rest : List UInt8)

theorem readChar_one (low : v < 0x80) : readChar (UInt8.ofNat v) rest = (Char.ofNat v, rest) := by
  rw [readChar, toNat_ofNat (by omega)]
  exact if_pos low

theorem readChar_two (low : 0x80 ≤ v) (high : v < 0x800) :
    readChar (UInt8.ofNat (v / 64 % 32 + 192)) (UInt8.ofNat (v % 64 + 128) :: rest) =
      (Char.ofNat v, rest) := by
  have bits : (v / 64 % 32 + 192 - 0xC0) * 64 + v % 64 = v := by omega
  rw [readChar, toNat_ofNat (by omega)]
  rw [if_neg (by omega), if_neg (by omega), if_pos (by omega),
    continuation_last (by omega), bits, continuation]

/-- No surrogate is encoded, so the range of the second byte is kept. -/
theorem readChar_three (low : 0x800 ≤ v) (high : v < 0x10000) (plain : v < 0xD800 ∨ 0xDFFF < v) :
    readChar (UInt8.ofNat (v / 4096 % 16 + 224))
        (UInt8.ofNat (v / 64 % 64 + 128) :: UInt8.ofNat (v % 64 + 128) :: rest) =
      (Char.ofNat v, rest) := by
  have bits : ((v / 4096 % 16 + 224 - 0xE0) * 64 + v / 64 % 64) * 64 + v % 64 = v := by omega
  rw [readChar, toNat_ofNat (by omega)]
  rw [if_neg (by omega), if_neg (by omega), if_neg (by omega), if_pos (by omega),
    continuation_next ?_ ?_, continuation_last (by omega), bits, continuation]
  · split
    · change 160 ≤ _
      omega
    · exact Nat.le_add_left _ _
  · split
    · change _ ≤ 159
      omega
    · change _ ≤ 191
      omega

/-- The planes end before the range of the second byte does. -/
theorem readChar_four (low : 0x10000 ≤ v) (high : v < 0x110000) :
    readChar (UInt8.ofNat (v / 262144 % 8 + 240)) (UInt8.ofNat (v / 4096 % 64 + 128) ::
        UInt8.ofNat (v / 64 % 64 + 128) :: UInt8.ofNat (v % 64 + 128) :: rest) =
      (Char.ofNat v, rest) := by
  have bits : (((v / 262144 % 8 + 240 - 0xF0) * 64 + v / 4096 % 64) * 64 + v / 64 % 64) * 64 + v % 64 = v := by
    omega
  rw [readChar, toNat_ofNat (by omega)]
  rw [if_neg (by omega), if_neg (by omega), if_neg (by omega), if_neg (by omega), if_pos (by omega),
    continuation_next ?_ ?_, continuation_last (by omega), continuation_last (by omega), bits,
    continuation]
  · split
    · change 144 ≤ _
      omega
    · exact Nat.le_add_left _ _
  · split
    · change _ ≤ 143
      omega
    · change _ ≤ 191
      omega

end Widths

/-- Characters are the code points of the planes without the surrogates. -/
theorem toNat_valid (c : Char) :
    c.val.toNat < 0xD800 ∨ 0xDFFF < c.val.toNat ∧ c.val.toNat < 0x110000 := c.valid

/-- The bytes of a character are read as it, whatever follows. -/
theorem decode_encodeChar (c : Char) (rest : List UInt8) :
    decode (String.utf8EncodeChar c ++ rest) = c :: decode rest := by
  have valid := toNat_valid c
  have same : Char.ofNat c.val.toNat = c := Char.ofNat_toNat c
  have read {b : UInt8} {bytes : List UInt8}
      (char : readChar b (bytes ++ rest) = (Char.ofNat c.val.toNat, rest)) :
      decode ((b :: bytes) ++ rest) = c :: decode rest := by
    rw [List.cons_append, decode, char, same]
  rw [String.utf8EncodeChar]
  split
  · exact read (readChar_one rest (by omega))
  split
  · exact read (readChar_two rest (by omega) (by omega))
  split
  · exact read (readChar_three rest (by omega) (by omega) (by omega))
  · exact read (readChar_four rest (by omega) (by omega))

/-- What follows a valid text is read as if it stood alone. -/
theorem decode_encode_append (cs : List Char) (rest : List UInt8) :
    decode (encode cs ++ rest) = cs ++ decode rest := by
  induction cs with
  | nil => rfl
  | cons c cs ih =>
    have first : encode (c :: cs) = String.utf8EncodeChar c ++ encode cs := List.flatMap_cons
    rw [first, List.append_assoc, decode_encodeChar, ih, List.cons_append]

theorem decode_encode (cs : List Char) : decode (encode cs) = cs := by
  have alone := decode_encode_append cs []
  rwa [List.append_nil, decode, List.append_nil] at alone

/-! ## Bad bytes -/

/-- The bytes do not go on with a character that has begun. -/
def StartsAfresh (bytes : List UInt8) : Prop :=
  ∀ b ∈ bytes.head?, b.toNat < 0x80 ∨ 0xBF < b.toNat

section StartsAfresh
variable {rest : List UInt8}

theorem continuation_append (fresh : StartsAfresh rest) {low high : UInt8} (lowest : 0x80 ≤ low.toNat)
    (highest : high.toNat ≤ 0xBF) (more acc : Nat) (bytes : List UInt8) :
    continuation more acc low high (bytes ++ rest) =
      ((continuation more acc low high bytes).1, (continuation more acc low high bytes).2 ++ rest) := by
  induction more generalizing acc low high bytes with
  | zero => rfl
  | succ more ih =>
    cases bytes with
    | nil =>
      cases rest with
      | nil => rfl
      | cons b rest =>
        have outside := fresh b rfl
        have unfit : ¬(low ≤ b ∧ b ≤ high) := by
          rw [UInt8.le_iff_toNat_le, UInt8.le_iff_toNat_le]
          omega
        rw [List.nil_append, continuation, continuation, if_neg unfit]
        rfl
    | cons b bytes =>
      rw [List.cons_append, continuation, continuation]
      split
      · exact ih (Nat.le_refl _) (Nat.le_refl _) _ bytes
      · rfl

theorem readChar_append (fresh : StartsAfresh rest) (b : UInt8) (bytes : List UInt8) :
    readChar b (bytes ++ rest) = ((readChar b bytes).1, (readChar b bytes).2 ++ rest) := by
  simp only [readChar]
  split
  · rfl
  split
  · rfl
  split
  · exact continuation_append fresh (Nat.le_refl _) (Nat.le_refl _) _ _ bytes
  split
  · apply continuation_append fresh
    · split <;> decide
    · split <;> decide
  split
  · apply continuation_append fresh
    · split <;> decide
    · split <;> decide
  · rfl

/-- Where bytes start afresh, what stands before them is read by itself. -/
theorem decode_append (fresh : StartsAfresh rest) (bytes : List UInt8) :
    decode (bytes ++ rest) = decode bytes ++ decode rest := by
  induction bytes using decode.induct with
  | case1 => rw [decode, List.nil_append, List.nil_append]
  | case2 b bytes ih => rw [List.cons_append, decode, readChar_append fresh, ih, decode, List.cons_append]

end StartsAfresh

/-- No character starts with a byte that goes on with one. -/
theorem startsAfresh_encode (cs : List Char) : StartsAfresh (encode cs) := by
  intro b first
  cases cs with
  | nil => cases first
  | cons c cs =>
    have valid := toNat_valid c
    have lead {n : Nat} (small : n < 256) (range : n < 0x80 ∨ 0xBF < n) (same : UInt8.ofNat n = b) :
        b.toNat < 0x80 ∨ 0xBF < b.toNat := by
      rwa [← same, toNat_ofNat small]
    have split : encode (c :: cs) = String.utf8EncodeChar c ++ encode cs := List.flatMap_cons
    rw [split, String.utf8EncodeChar] at first
    split at first
    · exact lead (by omega) (by omega) (Option.some_inj.mp first)
    split at first
    · exact lead (by omega) (by omega) (Option.some_inj.mp first)
    split at first
    · exact lead (by omega) (by omega) (Option.some_inj.mp first)
    · exact lead (by omega) (by omega) (Option.some_inj.mp first)

theorem decode_append_encode (bytes : List UInt8) (cs : List Char) :
    decode (bytes ++ encode cs) = decode bytes ++ cs := by
  rw [decode_append (startsAfresh_encode cs), decode_encode]

/-! ## Texts -/

theorem length_encode (s : String) : (encode s.toList).length = s.utf8ByteSize := by
  rw [← List.size_toByteArray]
  exact congrArg ByteArray.size String.utf8Encode_toList

theorem encode_ofByteArray {bytes : List UInt8} (valid : bytes.toByteArray.IsValidUTF8) :
    encode (String.ofByteArray bytes.toByteArray valid).toList = bytes :=
  List.toByteArray_inj.mp String.utf8Encode_toList

end SqlBridge.Text.Utf8
