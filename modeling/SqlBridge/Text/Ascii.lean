/-! # Case of ASCII letters

Names are compared without regard to the case of the twenty-six ASCII letters;
every other character counts as it is.
-/

namespace SqlBridge.Text

def lowerAscii (c : Char) : Char := if 'A' ≤ c ∧ c ≤ 'Z' then Char.ofNat (c.toNat + 32) else c

def foldCase (s : String) : String := String.ofList (s.toList.map lowerAscii)

end SqlBridge.Text
