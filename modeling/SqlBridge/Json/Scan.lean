import SqlBridge.Binary64
import SqlBridge.Decimal.Integer

/-! # Scanning JSON tokens

The tokens of JSON text that scalars need: white space, words, strings with
their escapes, and numbers. Each scanner returns the rest of the text.

A number without point and exponent that fits 64 bits is an integer. Any other
number is a float: as many leading digits as an unsigned 64-bit word holds,
rounded, then scaled by a rounded power of ten. A float that is too large is
refused.
-/

namespace SqlBridge.Json.Scan

def isSpace (c : Char) : Bool := c == ' ' || c == '\t' || c == '\n' || c == '\r'

def skipSpace (cs : List Char) : List Char := cs.dropWhile isSpace

def expect : List Char → List Char → Option (List Char)
  | [], cs => some cs
  | w :: word, c :: cs => if w = c then expect word cs else none
  | _ :: _, [] => none

def hexDigit? (c : Char) : Option Nat :=
  if c.isDigit then some (c.toNat - 48)
  else if 'a' ≤ c ∧ c ≤ 'f' then some (c.toNat - 87)
  else if 'A' ≤ c ∧ c ≤ 'F' then some (c.toNat - 55)
  else none

def hexWord? (a b c d : Char) : Option Nat := do
  let a ← hexDigit? a
  let b ← hexDigit? b
  let c ← hexDigit? c
  let d ← hexDigit? d
  return ((a * 16 + b) * 16 + c) * 16 + d

def shortEscape? (c : Char) : Option Char :=
  if c = '"' ∨ c = '\\' ∨ c = '/' then some c
  else if c = 'b' then some (Char.ofNat 8)
  else if c = 'f' then some (Char.ofNat 12)
  else if c = 'n' then some '\n'
  else if c = 'r' then some '\r'
  else if c = 't' then some '\t'
  else none

def isHighSurrogate (n : Nat) : Bool := 0xD800 ≤ n && n < 0xDC00

def isLowSurrogate (n : Nat) : Bool := 0xDC00 ≤ n && n < 0xE000

/-- The character that two surrogates stand for. -/
def ofSurrogates (high low : Nat) : Char :=
  Char.ofNat (0x10000 + (high - 0xD800) * 0x400 + (low - 0xDC00))

/-- Read the rest of a string after its opening quote. Surrogates have to come in pairs and
control characters have to be escaped. -/
def string : List Char → Option (List Char × List Char)
  | [] => none
  | '"' :: cs => some ([], cs)
  | '\\' :: 'u' :: a :: b :: c :: d :: cs => do
    let n ← hexWord? a b c d
    if isHighSurrogate n then
      match cs with
      | '\\' :: 'u' :: a :: b :: c :: d :: cs => do
        let low ← hexWord? a b c d
        if isLowSurrogate low then
          let (text, rest) ← string cs
          return (ofSurrogates n low :: text, rest)
        else none
      | _ => none
    else if isLowSurrogate n then none
    else
      let (text, rest) ← string cs
      return (Char.ofNat n :: text, rest)
  | '\\' :: c :: cs => do
    let c ← shortEscape? c
    let (text, rest) ← string cs
    return (c :: text, rest)
  | c :: cs =>
    if c.toNat < 0x20 ∨ c = '\\' then none
    else do
      let (text, rest) ← string cs
      return (c :: text, rest)

inductive Number where
  | int (i : Int)
  | float (x : Binary64)

/-- The largest unsigned number of 64 bits. -/
def maxWord : Nat := Nat.pow 2 64 - 1

/-- Take digits into a 64-bit word as long as they fit; the digits left over are returned. -/
def accumulate (word : Nat) : List Char → Nat × List Char
  | [] => (word, [])
  | c :: cs =>
    let next := word * 10 + Decimal.digitValue c
    if next ≤ maxWord then accumulate next cs else (word, c :: cs)

def powerOfTen (e : Nat) : Binary64 := .ofDecimal false 1 e

/-- Multiply or divide by a power of ten, in steps where one power would be too large. -/
def scale (x : Binary64) (exponent : Int) : Option Binary64 :=
  if exponent.natAbs ≤ 308 then
    if 0 ≤ exponent then
      let y := x.mul (powerOfTen exponent.natAbs)
      if y.isInfinite then none else some y
    else some (x.div (powerOfTen exponent.natAbs))
  else if x.isZero then some x
  else if 0 ≤ exponent then none
  else scale (x.div (powerOfTen 308)) (exponent + 308)
termination_by exponent.natAbs
decreasing_by omega

def negate (negative : Bool) (x : Binary64) : Binary64 := .ofMagnitude negative x.magnitude

/-- A float from the word of its leading digits and a power of ten. -/
def floatOf (negative : Bool) (word : Nat) (exponent : Int) : Option Number :=
  (scale (.ofInt word) exponent).map fun x => .float (negate negative x)

/-- The digits of an exponent, after an optional sign. -/
def exponentDigits : List Char → Bool × List Char
  | '-' :: cs => (true, cs)
  | '+' :: cs => (false, cs)
  | cs => (false, cs)

/-- What may follow the digits of a float: an exponent. -/
def floatTail (negative : Bool) (word : Nat) (exponent : Int) (cs : List Char) :
    Option (Number × List Char) :=
  match cs with
  | c :: rest =>
    if c = 'e' ∨ c = 'E' then
      let (down, rest) := exponentDigits rest
      let ds := rest.takeWhile Char.isDigit
      let e : Int := Decimal.ofDigits ds
      if ds.isEmpty then none
      else (floatOf negative word (if down then exponent - e else exponent + e)).map
        (·, rest.dropWhile Char.isDigit)
    else (floatOf negative word exponent).map (·, cs)
  | [] => (floatOf negative word exponent).map (·, [])

/-- An integer, or a float where it does not fit or is a negative zero. -/
def wholeNumber (negative : Bool) (word : Nat) : Number :=
  if negative then
    if word = 0 ∨ Nat.pow 2 63 < word then .float (negate true (.ofInt word)) else .int (-(word : Int))
  else .int word

def unsignedNumber (negative : Bool) (cs : List Char) : Option (Number × List Char) :=
  let whole := cs.takeWhile Char.isDigit
  let (word, excess) := accumulate 0 whole
  if whole.isEmpty || Decimal.hasLeadingZero whole then none
  else match cs.dropWhile Char.isDigit with
  | '.' :: rest =>
    let fraction := rest.takeWhile Char.isDigit
    let (word, cut) := accumulate word fraction
    let exponent : Int := excess.length - (fraction.length - cut.length)
    if fraction.isEmpty then none
    else floatTail negative word exponent (rest.dropWhile Char.isDigit)
  | c :: rest =>
    if c = 'e' ∨ c = 'E' ∨ !excess.isEmpty then floatTail negative word excess.length (c :: rest)
    else some (wholeNumber negative word, c :: rest)
  | [] =>
    if excess.isEmpty then some (wholeNumber negative word, [])
    else floatTail negative word excess.length []

def number : List Char → Option (Number × List Char)
  | '-' :: cs => unsignedNumber true cs
  | cs => unsignedNumber false cs

end SqlBridge.Json.Scan
