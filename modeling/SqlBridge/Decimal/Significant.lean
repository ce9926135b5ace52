import SqlBridge.Binary64

/-! # Numbers with fourteen significant digits

A number is written with fourteen significant digits at most, rounded to
nearest with ties to an even last digit, and trailing zeros are dropped. From
10⁻⁴ up to, but not including, 10¹⁴ the point is written in place; outside that
range one digit stands before the point and a signed exponent follows.
-/

namespace SqlBridge.Decimal

/-- A decimal with `precision` digits; its first digit counts `10 ^ exponent`. -/
structure Scientific where
  digits : Nat
  exponent : Int
deriving DecidableEq

def precision : Nat := 14

/-- The exponent of the first decimal digit of `num / den`, both positive. -/
def leadingExponent (num den : Nat) : Int :=
  if den ≤ num then length (num / den) - 1 else -(length ((den - 1) / num) : Int)

/-- `num / den` counted in units of `10 ^ exponent`, rounded. -/
def roundAt (num den : Nat) (exponent : Int) : Nat :=
  if exponent ≤ 0 then roundDivEven (num * Nat.pow 10 (-exponent).toNat) den
  else roundDivEven num (den * Nat.pow 10 exponent.toNat)

/-- Round a positive rational to the significant digits that are kept. -/
def Scientific.ofRatio (num den : Nat) : Scientific :=
  let e := leadingExponent num den
  let d := roundAt num den (e - (precision - 1))
  if d = Nat.pow 10 precision then ⟨Nat.pow 10 (precision - 1), e + 1⟩ else ⟨d, e⟩

def dropTrailingZeros (cs : List Char) : List Char := (cs.reverse.dropWhile (· == '0')).reverse

/-- The text of a positive decimal, in place or with an exponent. -/
def Scientific.layout (s : Scientific) : List Char :=
  let ds := dropTrailingZeros (Decimal.digits s.digits)
  if s.exponent < -4 ∨ 13 < s.exponent then
    let fraction := ds.drop 1
    ds.take 1 ++ '.' :: (if fraction.isEmpty then ['0'] else fraction) ++
      'E' :: (if s.exponent < 0 then '-' else '+') :: Decimal.digits s.exponent.natAbs
  else if s.exponent < 0 then
    '0' :: '.' :: List.replicate (s.exponent.natAbs - 1) '0' ++ ds
  else
    let whole := s.exponent.natAbs + 1
    if ds.length ≤ whole then ds ++ List.replicate (whole - ds.length) '0'
    else ds.take whole ++ '.' :: ds.drop whole

end SqlBridge.Decimal

namespace SqlBridge.Binary64
open Decimal

def textChars (x : Binary64) : List Char :=
  if x.isNaN then ['N', 'A', 'N']
  else
    let magnitude :=
      if x.isInfinite then ['I', 'N', 'F']
      else if x.isZero then ['0']
      else (Scientific.ofRatio x.units unitsPerOne).layout
    if x.isNegative then '-' :: magnitude else magnitude

/-- The text of a number: at most fourteen significant digits. -/
def text (x : Binary64) : String := String.ofList x.textChars

end SqlBridge.Binary64
