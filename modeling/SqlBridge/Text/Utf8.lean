/-! # Reading bytes as UTF-8

Bytes that may not be valid UTF-8 are still read as text. Valid sequences give
their characters. Where a sequence breaks off, the bytes that could have begun
a character are replaced together by one replacement character, and reading
goes on at the byte that did not fit.
-/

namespace SqlBridge.Text.Utf8

def replacement : Char := '\uFFFD'

def encode (cs : List Char) : List UInt8 := cs.flatMap String.utf8EncodeChar

/-- Read the continuation bytes of a character: `more` of them, the first between `low` and `high`
and the others in the whole range, on top of the bits in `acc`. -/
def continuation : (more acc : Nat) → (low high : UInt8) → List UInt8 → Char × List UInt8
  | 0, acc, _, _, bytes => (Char.ofNat acc, bytes)
  | _ + 1, _, _, _, [] => (replacement, [])
  | more + 1, acc, low, high, b :: bytes =>
    if low ≤ b ∧ b ≤ high then
      continuation more (acc * 64 + (b.toNat - 0x80)) 0x80 0xBF bytes
    else (replacement, b :: bytes)

/-- Read one character, or one replacement, after its first byte. The narrowed ranges exclude
overlong forms, surrogates and code points beyond the last plane. -/
def readChar (b : UInt8) (bytes : List UInt8) : Char × List UInt8 :=
  let n := b.toNat
  if n < 0x80 then (Char.ofNat n, bytes)
  else if n < 0xC2 then (replacement, bytes)
  else if n < 0xE0 then continuation 1 (n - 0xC0) 0x80 0xBF bytes
  else if n < 0xF0 then
    continuation 2 (n - 0xE0) (if n = 0xE0 then 0xA0 else 0x80) (if n = 0xED then 0x9F else 0xBF) bytes
  else if n < 0xF5 then
    continuation 3 (n - 0xF0) (if n = 0xF0 then 0x90 else 0x80) (if n = 0xF4 then 0x8F else 0xBF) bytes
  else (replacement, bytes)

theorem length_continuation (more acc : Nat) (low high : UInt8) (bytes : List UInt8) :
    (continuation more acc low high bytes).2.length ≤ bytes.length := by
  induction more generalizing acc low high bytes with
  | zero => simp [continuation]
  | succ more ih =>
    cases bytes with
    | nil => simp [continuation]
    | cons b bytes =>
      rw [continuation]
      split
      · exact Nat.le_trans (ih ..) (by simp)
      · simp

theorem length_readChar (b : UInt8) (bytes : List UInt8) :
    (readChar b bytes).2.length ≤ bytes.length := by
  unfold readChar
  simp only
  repeat' split
  all_goals first | exact length_continuation .. | exact Nat.le_refl _

/-- The characters that the bytes spell, replacements included. -/
def decode : List UInt8 → List Char
  | [] => []
  | b :: bytes => (readChar b bytes).1 :: decode (readChar b bytes).2
termination_by bytes => bytes.length
decreasing_by
  have := length_readChar b bytes
  simp
  omega

end SqlBridge.Text.Utf8
