import SqlBridge.Decimal.Digits

/-! # Reading integers

Two readers for the signed 64-bit range. The lenient one takes one optional
sign and any number of leading zeros. The canonical one accepts exactly what
the printer writes, so that reading and printing are inverse to each other.
-/

namespace SqlBridge.Decimal

def minInt64 : Int := -9223372036854775808

def maxInt64 : Int := 9223372036854775807

def isDigits (cs : List Char) : Bool := !cs.isEmpty && cs.all Char.isDigit

def inInt64 (i : Int) : Option Int := if minInt64 ≤ i ∧ i ≤ maxInt64 then some i else none

/-- Read an optional sign and at least one digit. -/
def readInt : List Char → Option Int
  | '-' :: cs => if isDigits cs then inInt64 (-(ofDigits cs : Int)) else none
  | '+' :: cs => if isDigits cs then inInt64 (ofDigits cs) else none
  | cs => if isDigits cs then inInt64 (ofDigits cs) else none

def hasLeadingZero : List Char → Bool
  | '0' :: _ :: _ => true
  | _ => false

/-- Read an integer as the printer writes it: no plus sign, no leading zero, no negative zero. -/
def readCanonicalInt : List Char → Option Int
  | '-' :: cs =>
    if isDigits cs && !hasLeadingZero cs && cs != ['0'] then inInt64 (-(ofDigits cs : Int)) else none
  | cs => if isDigits cs && !hasLeadingZero cs then inInt64 (ofDigits cs) else none

end SqlBridge.Decimal
