import SqlBridge.Class.Table
import SqlBridge.Proofs.Text.LetterCase

/-! # Looking up classes

Two names are names of one class if they agree up to the case of ASCII letters after
one leading backslash of each is left out. A new table into which classes were inserted
has, under any name, the latest of them with that name, or else the class of plain property
bags if the name is a name of that. Inserting a class changes nothing under other names.
-/

namespace SqlBridge.ClassTable
open Text

/-! ## Names of one class -/

/-- What a name says after its leading backslash, if it has one. Further backslashes belong to it. -/
inductive Unqualified : List Char → List Char → Prop where
  | backslash (rest : List Char) : Unqualified ('\\' :: rest) rest
  | bare {name : List Char} (plain : name.head? ≠ some '\\') : Unqualified name name

/-- The names are names of one class. -/
def SameName (a b : String) : Prop :=
  ∃ as bs, Unqualified a.toList as ∧ Unqualified b.toList bs ∧ List.Forall₂ SameLetter as bs

theorem unqualified_iff {name rest : List Char} : Unqualified name rest ↔ dropBackslash name = rest := by
  constructor
  · intro left
    cases left with
    | backslash => rfl
    | bare plain =>
      cases name with
      | nil => rfl
      | cons c cs => exact if_neg fun h => plain (congrArg some h)
  · rintro rfl
    cases name with
    | nil => exact .bare nofun
    | cons c cs =>
      by_cases h : c = '\\'
      · subst h
        exact .backslash cs
      · rw [dropBackslash, if_neg h]
        exact .bare fun first => h (Option.some_inj.mp first)

/-- Names are looked up alike exactly if they are names of one class. -/
theorem lookupName_eq_iff {a b : String} : lookupName a = lookupName b ↔ SameName a b := by
  have folded : lookupName a = lookupName b ↔
      List.Forall₂ SameLetter (dropBackslash a.toList) (dropBackslash b.toList) := by
    simp only [lookupName, foldCase, String.toList_ofList, String.ofList_inj, map_lowerAscii_eq_iff]
  rw [folded]
  constructor
  · intro same
    exact ⟨_, _, unqualified_iff.mpr rfl, unqualified_iff.mpr rfl, same⟩
  · rintro ⟨as, bs, left, left', same⟩
    rw [unqualified_iff.mp left, unqualified_iff.mp left']
    exact same

instance (a b : String) : Decidable (SameName a b) := decidable_of_iff _ lookupName_eq_iff

/-- A backslash is no letter, so that it does not matter whether case is folded first. -/
theorem lowerAscii_eq_backslash {c : Char} : lowerAscii c = '\\' ↔ c = '\\' := by
  have other : ∀ l ∈ letters, l.1 ≠ '\\' ∧ l.2 ≠ '\\' := by decide
  rcases lowerAscii_cases c with kept | letter
  · rw [kept]
  · exact iff_of_false (other _ letter).2 (other _ letter).1

theorem dropBackslash_map (cs : List Char) :
    dropBackslash (cs.map lowerAscii) = (dropBackslash cs).map lowerAscii := by
  cases cs with
  | nil => rfl
  | cons c cs => by_cases h : c = '\\' <;> simp [dropBackslash, lowerAscii_eq_backslash, h]

theorem sameName_foldCase (name : String) : SameName (foldCase name) name := by
  have folded : String.ofList ((dropBackslash name.toList).map lowerAscii) =
      foldCase (String.ofList (dropBackslash name.toList)) := by
    rw [foldCase, String.toList_ofList]
  rw [← lookupName_eq_iff, lookupName, toList_foldCase, dropBackslash_map, folded, foldCase_foldCase,
    lookupName]

/-! ## Tables -/

variable {t : ClassTable} {text : String}

theorem find?_congr (t : ClassTable) {a b : String} (same : SameName a b) : t.find? a = t.find? b := by
  rw [find?, lookupName_eq_iff.mpr same, find?]

@[simp] theorem find?_foldCase (t : ClassTable) (name : String) :
    t.find? (foldCase name) = t.find? name :=
  find?_congr t (sameName_foldCase name)

theorem find?_insert (t : ClassTable) (c : ObjectClass) (text : String) :
    (t.insert c).find? text = if SameName c.name text then some c else t.find? text := by
  rw [find?, insert, OrderedMap.get?_insert]
  simp only [lookupName_eq_iff, find?]

theorem find?_standard (text : String) :
    standard.find? text =
      if SameName Object.standardClass text then some ⟨Object.standardClass, none⟩ else none :=
  find?_insert ⟨.empty⟩ ⟨Object.standardClass, none⟩ text

theorem insertAll_append (t : ClassTable) (before after : List ObjectClass) :
    t.insertAll (before ++ after) = (t.insertAll before).insertAll after :=
  List.foldl_append

theorem find?_insertAll_of_others {cs : List ObjectClass}
    (others : ∀ c ∈ cs, ¬ SameName c.name text) : (t.insertAll cs).find? text = t.find? text := by
  induction cs generalizing t with
  | nil => rfl
  | cons c cs ih =>
    have other := others c List.mem_cons_self
    calc ((t.insert c).insertAll cs).find? text = (t.insert c).find? text :=
          ih fun d mem => others d (List.mem_cons_of_mem c mem)
      _ = t.find? text := by rw [find?_insert, if_neg other]

/-- What a name stands for after classes were inserted one by one: the latest class of the name, else
the class of plain property bags, else nothing. -/
inductive StandsFor (inserted : List ObjectClass) (text : String) : Option ObjectClass → Prop where
  | latest {before after : List ObjectClass} {c : ObjectClass} (split : inserted = before ++ c :: after)
      (named : SameName c.name text) (others : ∀ d ∈ after, ¬ SameName d.name text) :
      StandsFor inserted text (some c)
  | standard (others : ∀ d ∈ inserted, ¬ SameName d.name text)
      (named : SameName Object.standardClass text) :
      StandsFor inserted text (some ⟨Object.standardClass, none⟩)
  | unknown (others : ∀ d ∈ inserted, ¬ SameName d.name text)
      (unnamed : ¬ SameName Object.standardClass text) : StandsFor inserted text none

theorem find?_of_standsFor {inserted : List ObjectClass} {found : Option ObjectClass}
    (stands : StandsFor inserted text found) : (standard.insertAll inserted).find? text = found := by
  cases stands with
  | @latest before after c split named others =>
    rw [split, insertAll_append]
    calc (((standard.insertAll before).insert c).insertAll after).find? text
        = ((standard.insertAll before).insert c).find? text := find?_insertAll_of_others others
      _ = some c := by rw [find?_insert, if_pos named]
  | standard others named => rw [find?_insertAll_of_others others, find?_standard, if_pos named]
  | unknown others unnamed => rw [find?_insertAll_of_others others, find?_standard, if_neg unnamed]

theorem exists_last_named (inserted : List ObjectClass) (text : String) :
    (∃ before c after, inserted = before ++ c :: after ∧ SameName c.name text ∧
      ∀ d ∈ after, ¬ SameName d.name text) ∨ ∀ d ∈ inserted, ¬ SameName d.name text := by
  induction inserted with
  | nil => exact .inr fun _ mem => absurd mem List.not_mem_nil
  | cons c cs ih =>
    rcases ih with ⟨before, d, after, rfl, named, others⟩ | others
    · exact .inl ⟨c :: before, d, after, rfl, named, others⟩
    · by_cases named : SameName c.name text
      · exact .inl ⟨[], c, cs, rfl, named, others⟩
      · exact .inr (List.forall_mem_cons.mpr ⟨named, others⟩)

theorem exists_standsFor (inserted : List ObjectClass) (text : String) :
    ∃ found, StandsFor inserted text found := by
  rcases exists_last_named inserted text with ⟨before, c, after, split, named, others⟩ | others
  · exact ⟨_, .latest split named others⟩
  · by_cases named : SameName Object.standardClass text
    · exact ⟨_, .standard others named⟩
    · exact ⟨_, .unknown others named⟩

theorem find?_eq_iff_standsFor {inserted : List ObjectClass} {found : Option ObjectClass} :
    (standard.insertAll inserted).find? text = found ↔ StandsFor inserted text found := by
  refine ⟨fun same => ?_, find?_of_standsFor⟩
  obtain ⟨found', stands⟩ := exists_standsFor inserted text
  rw [← same, find?_of_standsFor stands]
  exact stands

theorem StandsFor.sameName {inserted : List ObjectClass} {c : ObjectClass}
    (stands : StandsFor inserted text (some c)) : SameName c.name text := by
  cases stands with
  | latest _ named _ => exact named
  | standard _ named => exact named

/-- A new table finds the class that the name stands for: of the classes inserted, the latest one of that
name. It contains the names under which it finds a class, and a class that is found is found again by its
own name. A further class is no concern of other names. -/
theorem find?_latest_inserted (inserted : List ObjectClass) (text : String) :
    let table := standard.insertAll inserted
    (∀ found, table.find? text = found ↔ StandsFor inserted text found) ∧
      (table.contains text = true ↔ ∃ c, table.find? text = some c) ∧
      (∀ c, table.find? text = some c → table.find? c.name = some c) ∧
      ∀ c, ¬ SameName c.name text → (table.insert c).find? text = table.find? text := by
  intro table
  refine ⟨fun _ => find?_eq_iff_standsFor, Option.isSome_iff_exists, fun c found => ?_, fun c other => ?_⟩
  · have named : SameName c.name text := (find?_eq_iff_standsFor.mp found).sameName
    rw [find?_congr table named]
    exact found
  · rw [find?_insert, if_neg other]

/-- Of two leading backslashes one belongs to the name, and the case of other letters than ASCII ones
counts. -/
theorem find?_latest_inserted_backslashes :
    let double : ObjectClass := ⟨"\\\\Pöint", none⟩
    let inserted := [⟨"\\\\pÖINT", none⟩, double, ⟨"\\PöINT", none⟩]
    let table := standard.insertAll inserted
    table.find? "\\\\pöINT" = some double ∧ table.find? double.name = some double ∧
      ¬ SameName "pöint" "\\\\pöINT" ∧
      (table.insert ⟨"pöint", none⟩).find? "\\\\pöINT" = some double := by
  intro double inserted table
  obtain ⟨latest, -, again, apart⟩ := find?_latest_inserted inserted "\\\\pöINT"
  have found : table.find? "\\\\pöINT" = some double := by
    have split : inserted = [⟨"\\\\pÖINT", none⟩] ++ double :: [⟨"\\PöINT", none⟩] := rfl
    exact (latest (some double)).mpr (.latest split (by decide +kernel) (by decide +kernel))
  have other : ¬ SameName "pöint" "\\\\pöINT" := by decide +kernel
  exact ⟨found, again double found, other, (apart ⟨"pöint", none⟩ other).trans found⟩

end SqlBridge.ClassTable
