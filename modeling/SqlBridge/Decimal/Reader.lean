import SqlBridge.Binary64
import SqlBridge.Decimal.Integer
import SqlBridge.Text.Ascii

/-! # Reading floating-point text

One optional sign stands before the words for infinity and NaN, in any case, or
before a decimal: digits with an optional point among them, at least one digit,
and an optional exponent. A decimal denotes the nearest number, whatever its
length.
-/

namespace SqlBridge.Decimal

/-- An unsigned decimal as it is read: all its digits, and how many stand after the point. -/
structure Fixed where
  digits : List Char
  places : Nat

/-- Read digits with an optional point and return the rest. At least one digit is needed. -/
def readFixed (cs : List Char) : Option (Fixed × List Char) :=
  let whole := cs.takeWhile Char.isDigit
  match cs.dropWhile Char.isDigit with
  | '.' :: rest =>
    let fraction := rest.takeWhile Char.isDigit
    if whole.isEmpty && fraction.isEmpty then none
    else some (⟨whole ++ fraction, fraction.length⟩, rest.dropWhile Char.isDigit)
  | rest => if whole.isEmpty then none else some (⟨whole, 0⟩, rest)

/-- Read all of an exponent: a sign is optional, a digit is not. -/
def readExponentDigits : List Char → Option Int
  | '-' :: cs => if isDigits cs then some (-(ofDigits cs : Int)) else none
  | '+' :: cs => if isDigits cs then some (ofDigits cs) else none
  | cs => if isDigits cs then some (ofDigits cs) else none

/-- Read what follows the digits: nothing, or an exponent. -/
def readExponent : List Char → Option Int
  | [] => some 0
  | c :: cs => if c = 'e' ∨ c = 'E' then readExponentDigits cs else none

def readUnsigned (negative : Bool) (cs : List Char) : Option Binary64 :=
  let word := String.ofList (cs.map Text.lowerAscii)
  if word = "inf" ∨ word = "infinity" then some (.infinity negative)
  else if word = "nan" then some .nan
  else do
    let (fixed, rest) ← readFixed cs
    let exponent ← readExponent rest
    return .ofDecimal negative (ofDigits fixed.digits) (exponent - fixed.places)

def readFloat : List Char → Option Binary64
  | '-' :: cs => readUnsigned true cs
  | '+' :: cs => readUnsigned false cs
  | cs => readUnsigned false cs

end SqlBridge.Decimal
