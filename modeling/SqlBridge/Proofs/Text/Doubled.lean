import Mathlib.Data.List.Basic
import SqlBridge.Text.Quoted

/-! # Doubled characters

Inside a literal its quotes are written twice, and so are the semicolons of a
database name. Reading the pairs from left to right gives the text back, and a
text in which no single one is left over was written in this way.
-/

namespace SqlBridge.Text

/-- The text with a character written twice wherever it stands. -/
def doubled (c : Char) (cs : List Char) : List Char :=
  cs.flatMap fun d => if d = c then [d, d] else [d]

@[simp] theorem doubled_nil (c : Char) : doubled c [] = [] := rfl

@[simp] theorem doubled_cons_self (c : Char) (cs : List Char) :
    doubled c (c :: cs) = c :: c :: doubled c cs := by
  simp [doubled]

theorem doubled_cons_of_ne {c d : Char} (other : d ≠ c) (cs : List Char) :
    doubled c (d :: cs) = d :: doubled c cs := by
  simp [doubled, other]

theorem mem_doubled {c d : Char} {cs : List Char} : d ∈ doubled c cs ↔ d ∈ cs := by
  induction cs with
  | nil => rfl
  | cons e cs ih =>
    by_cases same : e = c
    · subst same
      simp [ih]
    · rw [doubled_cons_of_ne same, List.mem_cons, List.mem_cons, ih]

namespace Quoted
variable {quote : Char} {replacement : List Char}

theorem replaceDoubled_pair (cs : List Char) :
    replaceDoubled quote replacement (quote :: quote :: cs) =
      replacement ++ replaceDoubled quote replacement cs := by
  rw [replaceDoubled, if_pos ⟨rfl, rfl⟩]

theorem replaceDoubled_cons_other {c : Char} (other : c ≠ quote) (cs : List Char) :
    replaceDoubled quote replacement (c :: cs) = c :: replaceDoubled quote replacement cs := by
  cases cs with
  | nil => rfl
  | cons d cs => rw [replaceDoubled, if_neg fun both => other both.1]

/-- Halving the doubled quotes gives the text back. -/
theorem replaceDoubled_doubled (cs : List Char) :
    replaceDoubled quote [quote] (doubled quote cs) = cs := by
  induction cs with
  | nil => rfl
  | cons c cs ih =>
    by_cases isQuote : c = quote
    · subst isQuote
      rw [doubled_cons_self, replaceDoubled_pair, ih]
      rfl
    · rw [doubled_cons_of_ne isQuote, replaceDoubled_cons_other isQuote, ih]

theorem notMem_replaceDoubled_doubled (cs : List Char) :
    quote ∉ replaceDoubled quote [] (doubled quote cs) := by
  induction cs with
  | nil => exact List.not_mem_nil
  | cons c cs ih =>
    by_cases isQuote : c = quote
    · subst isQuote
      rw [doubled_cons_self, replaceDoubled_pair]
      exact ih
    · rw [doubled_cons_of_ne isQuote, replaceDoubled_cons_other isQuote, List.mem_cons, not_or]
      exact ⟨Ne.symm isQuote, ih⟩

/-- Where taking the pairs out leaves no quote, every quote is doubled. -/
theorem doubled_replaceDoubled {cs : List Char} (none : quote ∉ replaceDoubled quote [] cs) :
    doubled quote (replaceDoubled quote [quote] cs) = cs := by
  induction cs using replaceDoubled.induct quote with
  | case1 c d cs pair ih =>
    obtain ⟨rfl, rfl⟩ := pair
    rw [replaceDoubled_pair] at none ⊢
    rw [List.singleton_append, doubled_cons_self, ih none]
  | case2 c d cs single ih =>
    rw [replaceDoubled, if_neg single, List.mem_cons, not_or] at none
    rw [replaceDoubled, if_neg single, doubled_cons_of_ne (Ne.symm none.1), ih none.2]
  | case3 cs short =>
    match cs, short, none with
    | [], _, _ => rfl
    | [c], _, none =>
      have other : c ≠ quote := fun isQuote => none (by simp [replaceDoubled, isQuote])
      exact doubled_cons_of_ne other []
    | c :: d :: cs, short, _ => exact (short c d cs rfl).elim

end Quoted
end SqlBridge.Text
