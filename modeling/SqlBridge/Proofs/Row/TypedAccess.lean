import SqlBridge.Proofs.Decimal.IntegerText
import SqlBridge.Proofs.Fetch.NameKeys
import SqlBridge.Proofs.Fetch.Stringified
import SqlBridge.Row.Convert

/-! # Typed access to stringified rows

Whoever asks for the values of a row in a type need not know whether the integers among
them were made text. An integer of 64 bits is read from its text as itself, and as a float
it is rounded in the same way from its text as it is directly, so that integers
which no float holds agree as well.
-/

namespace SqlBridge
open Decimal

/-! ## Values -/

namespace Value

/-- Values that lose nothing when they are made text: the integers, and what is text already. -/
inductive IntOrText : Value → Prop
  | int (n : Int64) : IntOrText (.int n)
  | text (s : String) : IntOrText (.text s)

theorem isNull_stringify (v : Value) : v.stringify.isNull = v.isNull := by
  cases v <;> rfl

theorem toText?_stringify (v : Value) : v.stringify.toText? = v.toText? := by
  cases v <;> rfl

theorem stringify_int (n : Int64) : (int n).stringify = text (intText n.toInt) := rfl

theorem toInt?_stringify_int (n : Int64) : (int n).stringify.toInt? = some n := by
  obtain ⟨low, high⟩ := int64_range n
  rw [stringify_int, toInt?, intText, String.toList_ofList, trim_intDigits, readInt_intDigits low high,
    Option.map_some, Int64.ofInt_toInt]

theorem toFloat?_stringify_int (n : Int64) : (int n).stringify.toFloat? = (int n).toFloat? := by
  have direct : (int n).toFloat? = some (.ofInt n.toInt) := rfl
  rw [direct, stringify_int, toFloat?, intText, String.toList_ofList, trim_intDigits, readFloat_intDigits]

end Value

open Value

/-! ## Conversions -/

/-- Made text, the value is accepted in the type as the same or refused with the same error. -/
def Value.AlikeIn (α : Type) [OfValue α] (v : Value) : Prop :=
  (OfValue.ofValue v.stringify : Except Error α) = OfValue.ofValue v

namespace Value.IntOrText
variable {v : Value}

theorem alikeIn_int (kind : v.IntOrText) : v.AlikeIn Int64 := by
  cases kind with
  | int n => exact congrArg (OfValue.required "int" _) (toInt?_stringify_int n)
  | text s => rfl

theorem alikeIn_float (kind : v.IntOrText) : v.AlikeIn Binary64 := by
  cases kind with
  | int n => exact congrArg (OfValue.required "float" _) (toFloat?_stringify_int n)
  | text s => rfl

theorem alikeIn_text (kind : v.IntOrText) : v.AlikeIn String := by
  cases kind <;> rfl

end Value.IntOrText

/-- Only null is missing, and it is not made text. -/
theorem Value.AlikeIn.option {α : Type} [OfValue α] {v : Value} (alike : v.AlikeIn α) :
    v.AlikeIn (Option α) := by
  have same : (OfValue.ofValue v.stringify : Except Error α).map some = (OfValue.ofValue v).map some :=
    congrArg (Except.map some) alike
  show (if v.stringify.isNull then _ else _) = if v.isNull then _ else _
  rw [isNull_stringify, same]

/-- Two ways to ask for a value give the same, as an integer, as a float and as text, and in each of
these also where a value may be missing. -/
structure SameReads (ask ask' : (α : Type) → [OfValue α] → Except Error α) : Prop where
  int : ask' Int64 = ask Int64
  float : ask' Binary64 = ask Binary64
  text : ask' String = ask String
  optionalInt : ask' (Option Int64) = ask (Option Int64)
  optionalFloat : ask' (Option Binary64) = ask (Option Binary64)
  optionalText : ask' (Option String) = ask (Option String)

theorem Value.IntOrText.sameReads {v : Value} (kind : v.IntOrText)
    {ask ask' : (α : Type) → [OfValue α] → Except Error α}
    (same : ∀ (α : Type) [OfValue α], v.AlikeIn α → ask' α = ask α) : SameReads ask ask' where
  int := same Int64 kind.alikeIn_int
  float := same Binary64 kind.alikeIn_float
  text := same String kind.alikeIn_text
  optionalInt := same (Option Int64) kind.alikeIn_int.option
  optionalFloat := same (Option Binary64) kind.alikeIn_float.option
  optionalText := same (Option String) kind.alikeIn_text.option

/-! ## Rows -/

namespace Row
variable {α : Type} [OfValue α] {row : Row} {v : Value}

theorem get?_stringified (row : Row) (i : Nat) :
    row.stringified.get? i = (row.get? i).map stringify := by
  rw [get?, get?, stringified, List.getElem?_map]

theorem byName?_stringified (row : Row) (name : String) :
    row.stringified.byName? name = (row.byName? name).map stringify := by
  rw [byName?, byName?, Option.map_bind]
  exact congrArg _ (funext row.get?_stringified)

theorem convertAt_stringified {i : Nat} (there : row.get? i = some v) (alike : v.AlikeIn α) :
    row.stringified.convertAt α i = row.convertAt α i := by
  rw [convertAt, convertAt, get?_stringified, there]
  exact alike

theorem convertNamed_stringified {name : String} (there : row.byName? name = some v)
    (alike : v.AlikeIn α) : row.stringified.convertNamed α name = row.convertNamed α name := by
  rw [convertNamed, convertNamed, byName?_stringified, there]
  exact alike

/-- An integer of 64 bits is read from its text as itself, has the text that it had, and is as a float the
same finite number, the nearest one, a tie going to the even one. So a column of a row that holds an integer
or text is read in the stringified row as it is in the row, whether it is asked for by its index or by
its name, and whether or not a value may be missing. -/
theorem stringified_read_alike (row : Row) :
    (∀ n : Int64, (int n).stringify.toInt? = some n ∧
      (∃ x : Binary64, (int n).stringify.toFloat? = some x ∧ (int n).toFloat? = some x ∧
        x.isFinite = true ∧ x.Rounds (n.toInt < 0) n.toInt.natAbs) ∧
      (int n).stringify.toText? = some (toString n) ∧ (int n).toText? = some (toString n)) ∧
    (∀ i v, row.get? i = some v → v.IntOrText →
      SameReads (fun α _ => row.convertAt α i) fun α _ => row.stringified.convertAt α i) ∧
    ∀ name v, row.byName? name = some v → v.IntOrText →
      SameReads (fun α _ => row.convertNamed α name) fun α _ => row.stringified.convertNamed α name := by
  refine ⟨fun n => ?_, fun i v there kind => ?_, fun name v there kind => ?_⟩
  · obtain ⟨low, high⟩ := int64_range n
    have float : (int n).toFloat? = some (.ofInt n.toInt) := rfl
    have text : (int n).toText? = some (toString n) := congrArg some (RowKey.text_int n)
    exact ⟨toInt?_stringify_int n,
      ⟨_, (toFloat?_stringify_int n).trans float, float, Binary64.ofInt_isFinite low high,
        Binary64.ofInt_rounds n.toInt⟩,
      (toText?_stringify _).trans text, text⟩
  · exact kind.sameReads fun α _ alike => convertAt_stringified there alike
  · exact kind.sameReads fun α _ alike => convertNamed_stringified there alike

/-- Between two floats the integer 2⁵³ + 1 is halfway, and it becomes the even one as it is and as text. -/
theorem stringified_read_alike_halfway :
    let row : Row := ⟨.ofTypes ["n", "n"] [], [.float .nan, .int 9007199254740993]⟩
    row.byName? "n" = some (.int 9007199254740993) ∧ (Value.int 9007199254740993).IntOrText ∧
      row.stringified.convertNamed Int64 "n" = .ok 9007199254740993 ∧
      row.stringified.convertNamed Binary64 "n" = row.convertNamed Binary64 "n" ∧
      row.convertNamed Binary64 "n" = .ok (.ofInt 9007199254740992) := by
  intro row
  have there : row.byName? "n" = some (.int 9007199254740993) := by decide +kernel
  have reads := (stringified_read_alike row).2.2 "n" _ there (.int 9007199254740993)
  have rounded : Binary64.ofInt 9007199254740993 = .ofInt 9007199254740992 := by decide +kernel
  have float : row.convertNamed Binary64 "n" = .ok (.ofInt 9007199254740993) := by
    rw [convertNamed, there]
    rfl
  exact ⟨there, .int _, reads.int.trans rfl, reads.float, float.trans (congrArg Except.ok rounded)⟩

end Row
end SqlBridge
