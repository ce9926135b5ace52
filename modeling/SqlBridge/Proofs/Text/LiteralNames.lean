import Mathlib.Data.String.Basic
import SqlBridge.Proofs.Text.Doubled

/-! # Names that are literals

A name is shown without its quotes exactly if it is one literal: some text in
which every quote is doubled, between two quotes of that kind. That no quote is
left when the doubled ones are taken out says just this, since the pairs are
found from left to right and an odd run leaves one over. The quotes are cut off at
the borders of characters.
-/

namespace SqlBridge.Text.Quoted

def enclosed (quote : Char) (text : String) : String :=
  String.singleton quote ++ text ++ String.singleton quote

/-- The literal that denotes a text, in the given quotes. -/
def literal (quote : Char) (value : String) : String :=
  enclosed quote (String.ofList (doubled quote value.toList))

/-! ## The cut -/

variable {quote : Char} {name text : String}

theorem toList_enclosed : (enclosed quote text).toList = quote :: text.toList ++ [quote] := by
  simp [enclosed]

theorem utf8ByteSize_enclosed (narrow : quote.utf8Size = 1) :
    (enclosed quote text).utf8ByteSize = text.utf8ByteSize + 2 := by
  simp only [enclosed, String.utf8ByteSize_append, String.utf8ByteSize_singleton, narrow]
  omega

/-- Cut between the bytes of its quotes, enclosed text is whole. -/
theorem inner_enclosed (narrow : quote.utf8Size = 1) : inner (enclosed quote text) = text := by
  have split : enclosed quote text = String.ofList ([quote] ++ text.toList ++ [quote]) :=
    String.toList_injective (by simp [toList_enclosed])
  have start : String.utf8Len [quote] = 1 := by simp [narrow]
  have last : (enclosed quote text).utf8ByteSize - 1 =
      String.utf8Len [quote] + String.utf8Len text.toList := by
    rw [utf8ByteSize_enclosed narrow, ← String.utf8ByteSize_ofList text.toList,
      String.ofList_toList, start]
    omega
  rw [inner, last, split, ← start, String.extract_of_valid, String.ofList_toList]

/-- Neither of the cuts goes through a character. -/
theorem isValid_cuts (narrow : quote.utf8Size = 1) (text : String) :
    String.Pos.Raw.IsValid (enclosed quote text) ⟨1⟩ ∧
      String.Pos.Raw.IsValid (enclosed quote text) ⟨(enclosed quote text).utf8ByteSize - 1⟩ := by
  have whole (s t : String) : String.Pos.Raw.IsValid (s ++ t) s.rawEndPos :=
    String.Pos.Raw.isValid_rawEndPos.append_right t
  constructor
  · have cut : (⟨1⟩ : String.Pos.Raw) = (String.singleton quote).rawEndPos := by
      rw [String.rawEndPos, String.utf8ByteSize_singleton, narrow]
    rw [cut]
    exact (whole (String.singleton quote) text).append_right _
  · have cut : (⟨(enclosed quote text).utf8ByteSize - 1⟩ : String.Pos.Raw) =
        (String.singleton quote ++ text).rawEndPos := by
      rw [utf8ByteSize_enclosed narrow, String.rawEndPos, String.utf8ByteSize_append,
        String.utf8ByteSize_singleton, narrow]
      congr 1
      omega
    rw [cut]
    exact whole _ _

/-- A name is delimited if it is some text between two quotes. -/
theorem delimits_iff (narrow : quote.utf8Size = 1) :
    delimits name quote = true ↔ ∃ text, name = enclosed quote text := by
  simp only [delimits, Bool.and_eq_true, decide_eq_true_eq, String.startsWith_char_eq_head?,
    String.endsWith_char_eq_getLast?, beq_iff_eq]
  constructor
  · rintro ⟨⟨size, first⟩, last⟩
    obtain ⟨rest, begins⟩ := List.head?_eq_some_iff.mp first
    rcases List.eq_nil_or_concat rest with rfl | ⟨middle, c, rfl⟩
    · -- one quote is not both the first and the last
      have lone : name = String.singleton quote := String.toList_injective (by simp [begins])
      rw [lone, String.utf8ByteSize_singleton, narrow] at size
      omega
    · rw [begins, List.concat_eq_append, ← List.cons_append, List.getLast?_concat] at last
      obtain rfl := Option.some.inj last
      exact ⟨String.ofList middle, String.toList_injective (by simp [begins, toList_enclosed])⟩
  · rintro ⟨text, rfl⟩
    rw [toList_enclosed, utf8ByteSize_enclosed narrow, List.getLast?_concat]
    exact ⟨⟨by omega, rfl⟩, rfl⟩

/-! ## The name that is shown -/

theorem utf8Size_of_mem (known : quote ∈ quotes) : quote.utf8Size = 1 := by
  rcases List.mem_pair.mp known with rfl | rfl <;> rfl

/-- No name is delimited in two ways. -/
theorem find?_quotes (known : quote ∈ quotes) (delimited : delimits name quote = true) :
    quotes.find? (delimits name) = some quote := by
  cases found : quotes.find? (delimits name) with
  | none => exact absurd delimited (List.find?_eq_none.mp found quote known)
  | some other =>
    obtain ⟨text, rfl⟩ := (delimits_iff (utf8Size_of_mem known)).mp delimited
    have known' := List.mem_of_find?_eq_some found
    obtain ⟨text', same⟩ := (delimits_iff (utf8Size_of_mem known')).mp (List.find?_some found)
    have heads := congrArg (fun name => name.toList.head?) same
    simp only [toList_enclosed, List.cons_append, List.head?_cons, Option.some.injEq] at heads
    rw [heads]

theorem shownName_enclosed (known : quote ∈ quotes) :
    shownName (enclosed quote text) =
      if quote ∈ replaceDoubled quote [] text.toList then enclosed quote text
      else String.ofList (replaceDoubled quote [quote] text.toList) := by
  have narrow := utf8Size_of_mem known
  rw [shownName, find?_quotes known ((delimits_iff narrow).mpr ⟨text, rfl⟩)]
  simp only [inner_enclosed narrow]

/-- The name that is shown for a literal, in single or in double quotes, is the text that it denotes. Any
other name is shown as it is. Where text between quotes is cut out, both cuts are at the border of a
character, and the text and its quotes make up the name. -/
theorem shownName_literal :
    (∀ quote ∈ ['\'', '"'], ∀ value, shownName (literal quote value) = value) ∧
      (∀ name, (∀ quote ∈ ['\'', '"'], ∀ value, name ≠ literal quote value) →
        shownName name = name) ∧
      ∀ name, ∀ quote ∈ ['\'', '"'], delimits name quote = true →
        String.Pos.Raw.IsValid name ⟨1⟩ ∧ String.Pos.Raw.IsValid name ⟨name.utf8ByteSize - 1⟩ ∧
          name = String.singleton quote ++ inner name ++ String.singleton quote := by
  refine ⟨fun quote known value => ?_, fun name other => ?_, fun name quote known delimited => ?_⟩
  · rw [literal, shownName_enclosed known, String.toList_ofList, replaceDoubled_doubled,
      if_neg (notMem_replaceDoubled_doubled _), String.ofList_toList]
  · cases found : quotes.find? (delimits name) with
    | none => rw [shownName, found]
    | some quote =>
      have known := List.mem_of_find?_eq_some found
      obtain ⟨text, rfl⟩ := (delimits_iff (utf8Size_of_mem known)).mp (List.find?_some found)
      rw [shownName_enclosed known, if_pos]
      by_contra none
      have same := doubled_replaceDoubled none
      refine other quote known (String.ofList (replaceDoubled quote [quote] text.toList)) ?_
      rw [literal, String.toList_ofList, same, String.ofList_toList]
  · have narrow := utf8Size_of_mem known
    obtain ⟨text, rfl⟩ := (delimits_iff narrow).mp delimited
    obtain ⟨first, last⟩ := isValid_cuts narrow text
    exact ⟨first, last, by rw [inner_enclosed narrow]; rfl⟩

/-- A run of three quotes is no literal, nor is a quote by itself or one that ends as another. -/
example : ["'it''s'", "''", "'a'''b'", "'", "'a\"", "'a' || 'b'"].map shownName =
    ["it's", "", "'a'''b'", "'", "'a\"", "'a' || 'b'"] := by
  decide +kernel

end SqlBridge.Text.Quoted
