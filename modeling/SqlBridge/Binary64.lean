import SqlBridge.Decimal.Digits

/-! # Binary floating-point numbers of 64 bits

A number is its bit pattern. Every finite one is a whole number of units of
2⁻¹⁰⁷⁴, and the patterns of one sign are ordered as their units are, so that a
rational is rounded by counting units exactly in natural numbers. Rounding goes
to the nearest pattern and a tie to the even one.
-/

namespace SqlBridge

/-- Divide and round to the nearest natural number, a tie to the even one. -/
def roundDivEven (n d : Nat) : Nat :=
  let q := n / d
  let r := n % d
  if 2 * r < d then q
  else if d < 2 * r then q + 1
  else if q % 2 = 0 then q else q + 1

/-- An interchange pattern: sign, eleven bits of exponent, fifty-two bits of fraction. -/
structure Binary64 where
  bits : UInt64
deriving DecidableEq

namespace Binary64

def isNegative (x : Binary64) : Bool := Nat.pow 2 63 ≤ x.bits.toNat

/-- The pattern without its sign. -/
def magnitude (x : Binary64) : Nat := x.bits.toNat % Nat.pow 2 63

def infinityMagnitude : Nat := 2047 * Nat.pow 2 52

def isNaN (x : Binary64) : Bool := infinityMagnitude < x.magnitude

def isInfinite (x : Binary64) : Bool := x.magnitude = infinityMagnitude

def isFinite (x : Binary64) : Bool := x.magnitude < infinityMagnitude

def isZero (x : Binary64) : Bool := x.magnitude = 0

def ofMagnitude (negative : Bool) (magnitude : Nat) : Binary64 :=
  ⟨UInt64.ofNat ((if negative then Nat.pow 2 63 else 0) + magnitude)⟩

def zero (negative : Bool) : Binary64 := ofMagnitude negative 0

def infinity (negative : Bool) : Binary64 := ofMagnitude negative infinityMagnitude

def nan : Binary64 := ofMagnitude false (infinityMagnitude + Nat.pow 2 51)

/-- The units of 2⁻¹⁰⁷⁴ that a finite pattern of this magnitude holds. -/
def unitsOf (magnitude : Nat) : Nat :=
  if magnitude < Nat.pow 2 52 then magnitude
  else (Nat.pow 2 52 + magnitude % Nat.pow 2 52) * Nat.pow 2 (magnitude / Nat.pow 2 52 - 1)

def units (x : Binary64) : Nat := unitsOf x.magnitude

/-- The number of units in one: a finite magnitude is `units / unitsPerOne`. -/
def unitsPerOne : Nat := Nat.pow 2 1074

/-- The magnitude nearest to `num / den`, a tie to the even pattern. -/
def roundMagnitude (num den : Nat) : Nat :=
  let step := (num * unitsPerOne / den).log2 - 52
  min infinityMagnitude
    (step * Nat.pow 2 52 + roundDivEven (num * unitsPerOne) (den * Nat.pow 2 step))

/-- The number nearest to a rational given by sign, numerator and positive denominator. -/
def ofRatio (negative : Bool) (num den : Nat) : Binary64 :=
  ofMagnitude negative (roundMagnitude num den)

def ofInt (i : Int) : Binary64 := ofRatio (i < 0) i.natAbs 1

/-- The number nearest to `± digits · 10 ^ exponent`. Exponents far outside the range are settled
by the number of digits alone. -/
def ofDecimal (negative : Bool) (digits : Nat) (exponent : Int) : Binary64 :=
  let top : Int := exponent + Decimal.length digits
  if digits = 0 ∨ top < -400 then zero negative
  else if 400 < top then infinity negative
  else if 0 ≤ exponent then ofRatio negative (digits * Nat.pow 10 exponent.toNat) 1
  else ofRatio negative digits (Nat.pow 10 (-exponent).toNat)

/-- The rounded product of two finite numbers. -/
def mul (x y : Binary64) : Binary64 :=
  ofRatio (x.isNegative != y.isNegative) (x.units * y.units) (unitsPerOne * unitsPerOne)

/-- The rounded quotient of a finite number by a finite number other than zero. -/
def div (x y : Binary64) : Binary64 :=
  ofRatio (x.isNegative != y.isNegative) x.units y.units

/-- Numerical equality: a NaN differs from everything and the two zeros are one number. -/
def numEq (x y : Binary64) : Bool :=
  !x.isNaN && !y.isNaN && (x.bits == y.bits || (x.isZero && y.isZero))

end Binary64
end SqlBridge
