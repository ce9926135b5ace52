/-! # Decimal digits

Natural numbers and integers as decimal text, and the number that a run of
digits denotes. Only the ten ASCII digits count.
-/

namespace SqlBridge.Decimal

def digitChar (d : Nat) : Char := Char.ofNat (48 + d)

def digitValue (c : Char) : Nat := c.toNat - 48

/-- The decimal digits of a number, without leading zeros; zero is one digit. -/
def digits (n : Nat) : List Char :=
  if n < 10 then [digitChar n] else digits (n / 10) ++ [digitChar (n % 10)]

/-- The number that a run of digits denotes; the empty run denotes zero. -/
def ofDigits (cs : List Char) : Nat := cs.foldl (fun n c => 10 * n + digitValue c) 0

/-- The least number of digits that can hold `n`; zero needs none. -/
def length (n : Nat) : Nat := if n = 0 then 0 else length (n / 10) + 1

def intDigits (i : Int) : List Char :=
  if i < 0 then '-' :: digits i.natAbs else digits i.natAbs

def natText (n : Nat) : String := String.ofList (digits n)

def intText (i : Int) : String := String.ofList (intDigits i)

end SqlBridge.Decimal
