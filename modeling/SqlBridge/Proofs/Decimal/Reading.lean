import SqlBridge.Proofs.Decimal.Layout
import SqlBridge.Decimal.Reader
import SqlBridge.Text.Blank

/-! # Reading numerals

A numeral of either kind is read as the digits and the exponent of the number that it
denotes, without any loss: rounding comes after that. No character of a numeral is a
blank, so that trimming leaves it as it is.
-/

namespace SqlBridge.Decimal

/-- The text is read as a decimal which is exactly this number. -/
def ReadAs (text : List Char) (d : ℚ) : Prop :=
  ∃ (digits : Nat) (exponent : ℤ), d = digits * 10 ^ exponent ∧
    ∀ negative, readUnsigned negative text = some (.ofDecimal negative digits exponent)

theorem lowerAscii_digit {c : Char} (digit : c.isDigit) : Text.lowerAscii c = c := by
  refine if_neg fun capital => ?_
  have letter : 65 ≤ c.toNat := capital.1
  have := (toNat_of_isDigit digit).2
  omega

/-- What starts with a digit is not one of the words. -/
theorem readUnsigned_decimal {first : Char} {text rest : List Char} {fixed : Fixed} {exponent : ℤ}
    (digit : first.isDigit) (decimal : readFixed (first :: text) = some (fixed, rest))
    (power : readExponent rest = some exponent) (negative : Bool) :
    readUnsigned negative (first :: text) =
      some (.ofDecimal negative (ofDigits fixed.digits) (exponent - fixed.places)) := by
  have other (letter : Char) (notDigit : letter.isDigit = false) (word : List Char) :
      String.ofList ((first :: text).map Text.lowerAscii) ≠ String.ofList (letter :: word) := by
    intro same
    have head := (List.cons.inj (String.ofList_injective same)).1
    rw [lowerAscii_digit digit] at head
    rw [head, notDigit] at digit
    cases digit
  have inf := other 'i' rfl ['n', 'f']
  have infinity := other 'i' rfl ['n', 'f', 'i', 'n', 'i', 't', 'y']
  have nan := other 'n' rfl ['a', 'n']
  rw [readUnsigned]
  dsimp only
  rw [if_neg (not_or.mpr ⟨inf, infinity⟩), if_neg nan, decimal]
  simp [power]

theorem readFixed_whole {text : List Char} (digits : isDigits text) :
    readFixed text = some (⟨text, 0⟩, []) := by
  obtain ⟨nonempty, digit⟩ := isDigits_iff.mp digits
  have whole : text.takeWhile Char.isDigit = text := List.takeWhile_eq_self_iff.mpr digit
  have nothing : text.dropWhile Char.isDigit = [] := List.dropWhile_eq_nil_iff.mpr digit
  simp [readFixed, whole, nothing, nonempty]

theorem readFixed_point {before fraction rest : List Char} (digits : isDigits before)
    (more : ∀ c ∈ fraction, c.isDigit) (stop : rest.takeWhile Char.isDigit = []) :
    readFixed (before ++ '.' :: (fraction ++ rest)) =
      some (⟨before ++ fraction, fraction.length⟩, rest) := by
  obtain ⟨nonempty, digit⟩ := isDigits_iff.mp digits
  have remains : rest.dropWhile Char.isDigit = rest := by
    have together := List.takeWhile_append_dropWhile (p := Char.isDigit) (l := rest)
    rwa [stop] at together
  have point : ('.' :: (fraction ++ rest)).takeWhile Char.isDigit = [] := rfl
  have point' : ('.' :: (fraction ++ rest)).dropWhile Char.isDigit = '.' :: (fraction ++ rest) := rfl
  rw [readFixed]
  simp only [List.takeWhile_append_of_pos digit, List.dropWhile_append_of_pos digit, point, point',
    List.takeWhile_append_of_pos more, List.dropWhile_append_of_pos more, stop, remains, List.append_nil]
  simp [nonempty]

/-! ## Numerals are read as what they denote -/

theorem InPlace.readAs {text : List Char} {d : ℚ} (inPlace : InPlace text d) : ReadAs text d := by
  obtain ⟨first, text', rfl, digit⟩ := inPlace.head_isDigit
  cases inPlace with
  | whole digits _ value =>
    refine ⟨_, _, ?_, readUnsigned_decimal digit (readFixed_whole digits) rfl⟩
    rw [value, Nat.cast_zero, sub_zero, zpow_zero, mul_one]
  | point before fraction written digits _ more _ value =>
    have read : readFixed (first :: text') = some (⟨before ++ fraction, fraction.length⟩, []) := by
      have plain : ([] : List Char).takeWhile Char.isDigit = [] := rfl
      have point := readFixed_point digits (isDigits_iff.mp more).2 plain
      rwa [List.append_nil, ← written] at point
    refine ⟨_, _, ?_, readUnsigned_decimal digit read rfl⟩
    rw [value, pointValue_eq, zero_sub]

theorem readExponent_signed {exponent : List Char} {e : ℤ} (digits : isDigits exponent)
    (power : ofDigits exponent = e.natAbs) :
    readExponent ('E' :: (if e < 0 then '-' else '+') :: exponent) = some e := by
  rw [readExponent, if_pos (.inr rfl)]
  split
  next negative =>
    rw [readExponentDigits, if_pos digits, power]
    congr 1
    omega
  next positive =>
    rw [readExponentDigits, if_pos digits, power]
    congr 1
    omega

theorem WithExponent.readAs {text : List Char} {d : ℚ} {e : ℤ} (withExponent : WithExponent text d e) :
    ReadAs text d := by
  obtain ⟨first, fraction, exponent, rfl, digit, -, more, -, digits, -, power, value⟩ := withExponent
  have single : isDigits [first] := by simpa [isDigits] using digit
  have letter : ('E' :: (if e < 0 then '-' else '+') :: exponent).takeWhile Char.isDigit = [] := rfl
  have read := readFixed_point single (isDigits_iff.mp more).2 letter
  refine ⟨_, _, ?_, readUnsigned_decimal digit read (readExponent_signed digits power)⟩
  rw [value, pointValue_eq, mul_assoc, ← zpow_add₀ (by norm_num)]
  congr 2
  ring

/-- What is written for significant digits is read as the number that they stand for. -/
theorem Scientific.Full.layout_readAs {s : Scientific} (full : s.Full) : ReadAs s.layout s.value :=
  full.layout_numeral.elim InPlace.readAs WithExponent.readAs

/-! ## Trimming -/

theorem trim_eq_self {cs : List Char} (visible : ∀ c ∈ cs, Text.isBlank c = false) :
    Text.trim cs = cs := by
  have kept {ds : List Char} (visible : ∀ c ∈ ds, Text.isBlank c = false) :
      ds.dropWhile Text.isBlank = ds := by
    cases ds with
    | nil => rfl
    | cons d ds => rw [List.dropWhile_cons_of_neg (by simp [visible d List.mem_cons_self])]
  rw [Text.trim, kept visible, kept (by simpa using visible), List.reverse_reverse]

theorem isBlank_digit {c : Char} (digit : c.isDigit) : Text.isBlank c = false := by
  obtain ⟨low, high⟩ := toNat_of_isDigit digit
  simp only [Text.isBlank, Bool.or_eq_false_iff, Bool.and_eq_false_iff, decide_eq_false_iff_not,
    beq_eq_false_iff_ne]
  omega

theorem InPlace.visible {text : List Char} {d : ℚ} (inPlace : InPlace text d) {c : Char}
    (there : c ∈ text) : Text.isBlank c = false := by
  obtain digit | rfl := inPlace.mem there
  · exact isBlank_digit digit
  · rfl

theorem WithExponent.visible {text : List Char} {d : ℚ} {e : ℤ} (withExponent : WithExponent text d e)
    {c : Char} (there : c ∈ text) : Text.isBlank c = false := by
  obtain ⟨first, fraction, exponent, rfl, digit, -, more, -, digits, -⟩ := withExponent
  simp only [List.mem_append, List.mem_cons] at there
  rcases there with (rfl | rfl | there) | rfl | rfl | there
  · exact isBlank_digit digit
  · rfl
  · exact isBlank_digit ((isDigits_iff.mp more).2 c there)
  · rfl
  · split <;> rfl
  · exact isBlank_digit ((isDigits_iff.mp digits).2 c there)

theorem Scientific.Full.layout_visible {s : Scientific} (full : s.Full) {c : Char} (there : c ∈ s.layout) :
    Text.isBlank c = false :=
  full.layout_numeral.elim (·.visible there) (·.visible there)

theorem readFloat_of_isDigit {first : Char} {rest : List Char} (digit : first.isDigit) :
    readFloat (first :: rest) = readUnsigned false (first :: rest) := by
  rw [readFloat.eq_def]
  split
  next minus => simp [(List.cons.inj minus).1] at digit
  next plus => simp [(List.cons.inj plus).1] at digit
  next => rfl

theorem Scientific.Full.readFloat_signed {s : Scientific} (full : s.Full) (negative : Bool) :
    readFloat (Text.trim (if negative then '-' :: s.layout else s.layout)) =
      readUnsigned negative s.layout := by
  have visible : ∀ c ∈ (if negative then '-' :: s.layout else s.layout), Text.isBlank c = false := by
    cases negative with
    | true =>
      intro c there
      obtain rfl | there := List.mem_cons.mp there
      · rfl
      · exact full.layout_visible there
    | false => exact fun c there => full.layout_visible there
  rw [trim_eq_self visible]
  cases negative with
  | true => rfl
  | false =>
    obtain ⟨first, rest, written, digit⟩ := full.layout_head
    rw [written, if_neg Bool.false_ne_true, readFloat_of_isDigit digit]

end SqlBridge.Decimal
