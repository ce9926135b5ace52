import Mathlib.Data.List.Forall2
import SqlBridge.Text.Ascii

/-! # Texts up to the case of letters

Folded texts are equal exactly if the texts agree character by character up to the case of
ASCII letters, which are the twenty-six of the alphabet in two cases. Folding once is enough.
-/

namespace SqlBridge.Text

/-- The ASCII letters, each in upper and in lower case. -/
def letters : List (Char × Char) :=
  "ABCDEFGHIJKLMNOPQRSTUVWXYZ".toList.zip "abcdefghijklmnopqrstuvwxyz".toList

/-- The characters are equal or the two cases of one ASCII letter. -/
def SameLetter (a b : Char) : Prop := a = b ∨ (a, b) ∈ letters ∨ (b, a) ∈ letters

theorem lowerAscii_letters : ∀ l ∈ letters, lowerAscii l.1 = l.2 ∧ lowerAscii l.2 = l.2 := by decide

theorem letters_unique : ∀ l ∈ letters, ∀ m ∈ letters, l.2 = m.2 → l.1 = m.1 := by decide

theorem upper_mem_letters :
    ∀ n ∈ List.range 26, (Char.ofNat (65 + n), lowerAscii (Char.ofNat (65 + n))) ∈ letters := by
  decide

/-- Only letters are changed. -/
theorem lowerAscii_cases (c : Char) : lowerAscii c = c ∨ (c, lowerAscii c) ∈ letters := by
  by_cases upper : 'A' ≤ c ∧ c ≤ 'Z'
  · have low : 65 ≤ c.toNat := upper.1
    have high : c.toNat ≤ 90 := upper.2
    have place := upper_mem_letters (c.toNat - 65) (List.mem_range.mpr (by omega))
    rw [Nat.add_sub_cancel' low, Char.ofNat_toNat] at place
    exact .inr place
  · exact .inl (if_neg upper)

theorem lowerAscii_eq_iff {a b : Char} : lowerAscii a = lowerAscii b ↔ SameLetter a b := by
  constructor
  · intro same
    rcases lowerAscii_cases a with kept | letter <;> rcases lowerAscii_cases b with kept' | letter'
    · exact .inl (kept.symm.trans (same.trans kept'))
    · rw [← same, kept] at letter'
      exact .inr (.inr letter')
    · rw [same, kept'] at letter
      exact .inr (.inl letter)
    · exact .inl (letters_unique _ letter _ letter' same)
  · rintro (rfl | letter | letter)
    · rfl
    · exact (lowerAscii_letters _ letter).1.trans (lowerAscii_letters _ letter).2.symm
    · exact (lowerAscii_letters _ letter).2.trans (lowerAscii_letters _ letter).1.symm

@[simp] theorem lowerAscii_lowerAscii (c : Char) : lowerAscii (lowerAscii c) = lowerAscii c := by
  rcases lowerAscii_cases c with kept | letter
  · rw [kept, kept]
  · exact (lowerAscii_letters _ letter).2

theorem map_lowerAscii_eq_iff {as bs : List Char} :
    as.map lowerAscii = bs.map lowerAscii ↔ List.Forall₂ SameLetter as bs := by
  rw [← List.forall₂_eq_eq_eq, List.forall₂_map_left_iff, List.forall₂_map_right_iff]
  simp only [lowerAscii_eq_iff]

@[simp] theorem toList_foldCase (s : String) : (foldCase s).toList = s.toList.map lowerAscii :=
  String.toList_ofList

@[simp] theorem foldCase_foldCase (s : String) : foldCase (foldCase s) = foldCase s := by
  rw [foldCase, toList_foldCase, List.map_map]
  exact congrArg String.ofList (List.map_congr_left fun c _ => lowerAscii_lowerAscii c)

end SqlBridge.Text
