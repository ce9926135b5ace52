import SqlBridge.Engine.Run
import SqlBridge.Proofs.Text.ReadBytes

/-! # Values that pass through the engine

A value that is bound and comes back in a row is read as it was, but for booleans,
which come back as integers. Bytes are read as text whether they are a text or not,
and valid text among them is read as it is, wherever it begins or ends.
-/

namespace SqlBridge

/-- What comes back of a value that is bound: a boolean as one or zero, and anything else as it is. -/
def Value.received : Value → Value
  | bool b => int (if b then 1 else 0)
  | v => v

namespace Cell

def textOf (bytes : List UInt8) : String := String.ofList (Text.Utf8.decode bytes)

theorem textOf_encode (s : String) : textOf (Text.Utf8.encode s.toList) = s := by
  rw [textOf, Text.Utf8.decode_encode, String.ofList_toList]

theorem textOf_encode_append (s : String) (bytes : List UInt8) :
    textOf (Text.Utf8.encode s.toList ++ bytes) = s ++ textOf bytes := by
  rw [textOf, Text.Utf8.decode_encode_append, String.ofList_append, String.ofList_toList, textOf]

theorem textOf_append_encode (bytes : List UInt8) (s : String) :
    textOf (bytes ++ Text.Utf8.encode s.toList) = textOf bytes ++ s := by
  rw [textOf, Text.Utf8.decode_append_encode, String.ofList_append, String.ofList_toList, textOf]

theorem ofValue?_eq_none_iff {v : Value} :
    ofValue? v = Option.none ↔ ∃ s, v = .text s ∧ maxTextLength < s.utf8ByteSize := by
  cases v with
  | text s =>
    simp only [ofValue?, Text.Utf8.length_encode, Value.text.injEq, exists_eq_left', ite_eq_right_iff,
      reduceCtorEq, imp_false, Nat.not_le]
  | null | bool | int | float => simp [ofValue?]

theorem toValue_of_bound {v : Value} {cell : Cell} (bound : ofValue? v = some cell) :
    cell.toValue = v.received := by
  cases v with
  | text s =>
    simp only [ofValue?] at bound
    split at bound
    · cases bound
      exact congrArg Value.text (textOf_encode s)
    · cases bound
  | null | bool | int | float =>
    cases bound
    rfl

end Cell

namespace Engine

theorem get?_readRow {columns : Columns} {cells : Nat → Cell} {i : Nat} (there : i < columns.count) :
    (readRow columns cells).get? i = some (cells i).toValue := by
  rw [readRow, Row.get?, List.getElem?_map, List.getElem?_range there, Option.map_some]

/-- Where a row of the engine holds the cell that a value was bound as, the value is read from it again, a
boolean as one or zero. All values can be bound but texts that are too long. Any bytes are read as text. Valid
ones are read as the text that they stand for, also with other bytes behind them or in front of them, and
those bytes are read as if they stood alone. -/
theorem bound_values_read :
    (∀ v cell, Cell.ofValue? v = some cell → cell.toValue = v.received ∧
      ∀ columns cells i, i < columns.count → cells i = cell →
        (readRow columns cells).get? i = some v.received) ∧
    (∀ v, Cell.ofValue? v = none ↔ ∃ s, v = .text s ∧ maxTextLength < s.utf8ByteSize) ∧
    (∀ bytes, (Cell.text bytes).toValue = .text (Cell.textOf bytes) ∧
      (Cell.blob bytes).toValue = .text (Cell.textOf bytes)) ∧
    ∀ (x y : List UInt8) (valid : x.toByteArray.IsValidUTF8),
      Cell.textOf x = String.ofByteArray x.toByteArray valid ∧
      Cell.textOf (x ++ y) = String.ofByteArray x.toByteArray valid ++ Cell.textOf y ∧
      Cell.textOf (y ++ x) = Cell.textOf y ++ String.ofByteArray x.toByteArray valid := by
  refine ⟨fun v cell bound => ⟨Cell.toValue_of_bound bound, fun columns cells i there same => ?_⟩,
    fun v => Cell.ofValue?_eq_none_iff, fun bytes => ⟨rfl, rfl⟩, fun x y valid => ?_⟩
  · rw [get?_readRow there, same, Cell.toValue_of_bound bound]
  · have encoded := Text.Utf8.encode_ofByteArray valid
    generalize String.ofByteArray x.toByteArray valid = s at encoded ⊢
    subst encoded
    exact ⟨Cell.textOf_encode s, Cell.textOf_encode_append s y, Cell.textOf_append_encode y s⟩

/-- A text with a zero character and one beyond the first plane comes back, and true comes back as one. The
bytes of a character that breaks off do not take the letter with them that follows. -/
theorem bound_values_read_broken :
    let bytes : List UInt8 := [0x61, 0xC3, 0xA9]
    bytes.toByteArray.IsValidUTF8 ∧
    (∃ cell, Cell.ofValue? (.text "\x00é😀") = some cell ∧ cell.toValue = .text "\x00é😀") ∧
    (∃ cell, Cell.ofValue? (.bool true) = some cell ∧ cell.toValue = .int 1) ∧
    (Cell.blob (bytes ++ [0xE2, 0x82])).toValue = .text "aé\uFFFD" ∧
    (Cell.text ([0xE2, 0x82] ++ bytes)).toValue = .text "\uFFFDaé" := by
  intro bytes
  have valid : bytes.toByteArray.IsValidUTF8 := ⟨['a', 'é'], rfl⟩
  obtain ⟨bound, -, anyBytes, texts⟩ := bound_values_read
  obtain ⟨-, front, behind⟩ := texts bytes [0xE2, 0x82] valid
  have plain : String.ofByteArray bytes.toByteArray valid = "aé" := String.toByteArray_inj.mp rfl
  have broken : Cell.textOf [0xE2, 0x82] = "\uFFFD" := by decide +kernel
  refine ⟨valid, ⟨_, rfl, (bound (.text _) _ rfl).1⟩, ⟨_, rfl, (bound (.bool true) _ rfl).1⟩, ?_, ?_⟩
  · rw [(anyBytes _).2, front, plain, broken]
    rfl
  · rw [(anyBytes _).1, behind, plain, broken]
    rfl

end Engine
end SqlBridge
