/-! # Quoted literals as column names

The engine names an unaliased literal after its source text, quotes and all.
The name shown is the value of the literal, provided that the whole name is one
literal: between its quotes, no quote is left when the doubled ones are taken out.
-/

namespace SqlBridge.Text.Quoted

def quotes : List Char := ['\'', '"']

/-- Text that starts and ends with a quote, unless it is only that quote. -/
def delimits (name : String) (quote : Char) : Bool :=
  2 ≤ name.utf8ByteSize && name.startsWith quote && name.endsWith quote

def inner (name : String) : String := String.Pos.Raw.extract name ⟨1⟩ ⟨name.utf8ByteSize - 1⟩

/-- Replace the doubled quotes, from left to right. -/
def replaceDoubled (quote : Char) (replacement : List Char) : List Char → List Char
  | c :: d :: cs =>
    if c = quote ∧ d = quote then replacement ++ replaceDoubled quote replacement cs
    else c :: replaceDoubled quote replacement (d :: cs)
  | cs => cs

/-- The column name to show for a name given by the engine. -/
def shownName (name : String) : String :=
  match quotes.find? (delimits name) with
  | none => name
  | some quote =>
    let text := (inner name).toList
    -- two literals with an operator between them are no literal
    if quote ∈ replaceDoubled quote [] text then name
    else String.ofList (replaceDoubled quote [quote] text)

end SqlBridge.Text.Quoted
