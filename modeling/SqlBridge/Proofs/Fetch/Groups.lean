import SqlBridge.Proofs.Fetch.Assoc
import Mathlib.Algebra.GroupWithZero.Nat
import Mathlib.Data.List.Induction
import Mathlib.Logic.Function.Basic

/-! # Groups lose no value

Where the columns of a row are grouped by name, a group is made by the first
column of its name and grows with every other one. So it holds the values of its
name in column order, and is a single value exactly if no other column has the
name. The groups spread out are the columns again, and dealt out to the names of
the row they give the columns back in their order.
-/

namespace SqlBridge

open OrderedMap

/-! ## One group -/

namespace ColumnGroup

def members : ColumnGroup → List Value
  | one v => [v]
  | many vs => vs

/-- The group of these values; there is none of no value. -/
def ofMembers? : List Value → Option ColumnGroup
  | [] => none
  | [v] => some (one v)
  | v :: w :: vs => some (many (v :: w :: vs))

/-- A group, or the lack of one, after one more value. -/
def grown (group : Option ColumnGroup) (v : Value) : ColumnGroup :=
  match group with
  | none => one v
  | some group => group.add v

theorem members_grown (group : Option ColumnGroup) (v : Value) :
    (grown group v).members = group.elim [] members ++ [v] := by
  cases group with
  | none => rfl
  | some group => cases group <;> rfl

theorem members_ofMembers? (vs : List Value) : (ofMembers? vs).elim [] members = vs := by
  match vs with
  | [] => rfl
  | [_] => rfl
  | _ :: _ :: _ => rfl

theorem ofMembers?_of_two_le {vs : List Value} (several : 2 ≤ vs.length) :
    ofMembers? vs = some (many vs) := by
  match vs with
  | [] | [_] => simp at several
  | _ :: _ :: _ => rfl

theorem ofMembers?_concat (vs : List Value) (v : Value) :
    ofMembers? (vs ++ [v]) = some (grown (ofMembers? vs) v) := by
  match vs with
  | [] => rfl
  | [_] => rfl
  | _ :: _ :: _ => rfl

def columns (name : String) (group : ColumnGroup) : List (String × Value) :=
  group.members.map fun v => (name, v)

theorem columns_grown (name : String) (group : Option ColumnGroup) (v : Value) :
    columns name (grown group v) = group.elim [] (columns name) ++ [(name, v)] := by
  rw [columns, members_grown, List.map_append]
  cases group <;> rfl

end ColumnGroup

namespace Layout
open ColumnGroup

def valuesOf (name : String) (pairs : List (String × Value)) : List Value :=
  (pairs.filter fun p => p.1 = name).map Prod.snd

theorem valuesOf_cons_self (p : String × Value) (rest : List (String × Value)) :
    valuesOf p.1 (p :: rest) = p.2 :: valuesOf p.1 rest := by
  simp [valuesOf]

theorem valuesOf_cons_of_ne {p : String × Value} {name : String} (other : name ≠ p.1)
    (rest : List (String × Value)) : valuesOf name (p :: rest) = valuesOf name rest := by
  simp [valuesOf, Ne.symm other]

theorem valuesOf_concat (pairs : List (String × Value)) (p : String × Value) (name : String) :
    valuesOf name (pairs ++ [p]) =
      if p.1 = name then valuesOf name pairs ++ [p.2] else valuesOf name pairs := by
  by_cases same : p.1 = name <;> simp [valuesOf, same]

theorem length_valuesOf (name : String) (pairs : List (String × Value)) :
    (valuesOf name pairs).length = (pairs.map Prod.fst).count name := by
  rw [valuesOf, List.length_map, ← List.countP_eq_length_filter, List.count, List.countP_map]
  apply List.countP_congr
  simp

/-! ## All groups -/

theorem addToGroup_eq (m : OrderedMap String ColumnGroup) (p : String × Value) :
    addToGroup m p = m.insert p.1 (grown (m.get? p.1) p.2) := by
  rw [addToGroup]
  cases m.get? p.1 <;> rfl

theorem groups_concat (pairs : List (String × Value)) (p : String × Value) :
    groups (pairs ++ [p]) = addToGroup (groups pairs) p :=
  List.foldl_concat _ _ _ _

theorem get?_groups (pairs : List (String × Value)) (name : String) :
    (groups pairs).get? name = ofMembers? (valuesOf name pairs) := by
  induction pairs using List.reverseRecOn with
  | nil => rfl
  | append_singleton pairs p ih =>
    rw [groups_concat, addToGroup_eq, get?_insert, valuesOf_concat]
    by_cases same : p.1 = name
    · subst same
      rw [if_pos rfl, if_pos rfl, ih, ofMembers?_concat]
    · rw [if_neg same, if_neg same, ih]

theorem keys_foldl_addToGroup (m : OrderedMap String ColumnGroup) (pairs : List (String × Value)) :
    (pairs.foldl addToGroup m).keys = (m.keys ++ pairs.map Prod.fst).eraseDups := by
  induction pairs generalizing m with
  | nil => simp [eraseDups_keys]
  | cons p rest ih => rw [List.foldl_cons, ih, addToGroup_eq, eraseDups_keys_insert, List.map_cons]

/-- The names stand in the order of their first columns. -/
theorem keys_groups (pairs : List (String × Value)) :
    (groups pairs).keys = (pairs.map Prod.fst).eraseDups :=
  keys_foldl_addToGroup .empty pairs

def spread (entries : List (String × ColumnGroup)) : List (String × Value) :=
  entries.flatMap fun e => columns e.1 e.2

/-- The group that has grown holds one column more, and the others stay. -/
theorem spread_put (name : String) (v : Value) (entries : List (String × ColumnGroup)) :
    (spread (put name (grown (lookup name entries) v) entries)).Perm
      (spread entries ++ [(name, v)]) := by
  induction entries with
  | nil => exact .refl _
  | cons e rest ih =>
    obtain ⟨name', group⟩ := e
    by_cases same : name' = name
    · subst same
      have last : (columns name' group ++ ((name', v) :: spread rest)).Perm
          (columns name' group ++ (spread rest ++ [(name', v)])) :=
        (List.perm_append_singleton _ _).symm.append_left _
      simpa [spread, put, lookup, columns_grown] using last
    · have later := ih.append_left (columns name' group)
      simpa [spread, put, lookup, same] using later

theorem length_spread (entries : List (String × ColumnGroup)) :
    (spread entries).length = (entries.map fun e => e.2.members.length).sum := by
  simp [spread, columns]

/-- Spread out, the groups are the columns in some order. -/
theorem spread_groups (pairs : List (String × Value)) :
    (spread (groups pairs).entries).Perm pairs := by
  induction pairs using List.reverseRecOn with
  | nil => exact .refl _
  | append_singleton pairs p ih =>
    rw [groups_concat, addToGroup_eq]
    apply (spread_put p.1 p.2 (groups pairs).entries).trans
    exact ih.append_right [p]

/-! ## The columns recovered -/

def membersOf (byName : OrderedMap String ColumnGroup) (name : String) : List Value :=
  (byName.get? name).elim [] members

/-- Deal values out to names: each name takes the first one that is left for it. -/
def deal (left : String → List Value) : List String → List (String × Value)
  | [] => []
  | name :: rest =>
    match left name with
    | [] => deal left rest
    | v :: vs => (name, v) :: deal (Function.update left name vs) rest

theorem membersOf_groups (pairs : List (String × Value)) :
    membersOf (groups pairs) = fun name => valuesOf name pairs := by
  funext name
  rw [membersOf, get?_groups, members_ofMembers?]

/-- Once the first column has its value, there are left the values of the others. -/
theorem update_valuesOf (p : String × Value) (rest : List (String × Value)) :
    Function.update (fun name => valuesOf name (p :: rest)) p.1 (valuesOf p.1 rest) =
      fun name => valuesOf name rest := by
  funext name
  by_cases same : name = p.1
  · rw [same, Function.update_self]
  · rw [Function.update_of_ne same, valuesOf_cons_of_ne same]

theorem deal_valuesOf (pairs : List (String × Value)) :
    deal (fun name => valuesOf name pairs) (pairs.map Prod.fst) = pairs := by
  induction pairs with
  | nil => rfl
  | cons p rest ih =>
    simp only [List.map_cons, deal, valuesOf_cons_self]
    rw [update_valuesOf, ih]

/-! ## Rows -/

theorem columnPairs_zip (s : LayoutSettings) (row : Row) :
    columnPairs s row = row.columns.names.zip (row.values.map (present s.stringifies)) := by
  rw [columnPairs, Row.pairs, List.zip_map_right]
  rfl

/-- A row whose columns are grouped has the different names as they are, in the order of their first
columns. A name that one column carries has the value of that column, and any other name has the values of
all its columns in their order. The groups hold the columns, each of them once, and with the list of
the names they give the list of the columns back. -/
theorem layOut_named_every_value (s : LayoutSettings) (row : Row) (objects : ObjectStore)
    (rect : row.columns.count = row.size) :
    let names := row.columns.names
    let pairs := names.zip (row.values.map (present s.stringifies))
    ∃ byName : OrderedMap String ColumnGroup,
      layOut s row .named objects = .done (.ok (.groups byName), objects) ∧
      byName.keys = names.eraseDups ∧
      (∀ name ∈ names, names.count name = 1 →
        ∃ v, valuesOf name pairs = [v] ∧ byName.get? name = some (.one v)) ∧
      (∀ name ∈ names, names.count name ≠ 1 → byName.get? name = some (.many (valuesOf name pairs))) ∧
      (spread byName.entries).Perm pairs ∧
      (byName.values.map fun group => group.members.length).sum = row.size ∧
      deal (membersOf byName) names = pairs := by
  intro names pairs
  have columns : columnPairs s row = pairs := columnPairs_zip s row
  have named : pairs.map Prod.fst = names := columns ▸ columnPairs_names s row rect
  have counted (name : String) : (valuesOf name pairs).length = names.count name := by
    rw [length_valuesOf, named]
  refine ⟨groups pairs, by rw [← columns]; rfl, ?_, ?_, ?_, spread_groups pairs, ?_, ?_⟩
  · rw [keys_groups, named]
  · intro name _ once
    obtain ⟨v, only⟩ := List.length_eq_one_iff.mp ((counted name).trans once)
    exact ⟨v, only, by rw [get?_groups, only, ofMembers?]⟩
  · intro name isName shared
    have some : 0 < names.count name := List.count_pos_iff.mpr isName
    rw [get?_groups]
    apply ofMembers?_of_two_le
    rw [counted]
    omega
  · have size : pairs.length = row.size := by
      rw [← List.length_map Prod.fst, named]
      exact rect
    rw [← size, ← (spread_groups pairs).length_eq, length_spread, OrderedMap.values, List.map_map]
    rfl
  · rw [membersOf_groups, ← named]
    exact deal_valuesOf pairs

/-- Two names repeat, one of them three times, with other columns between them. -/
theorem layOut_named_every_value_interleaved :
    let s : LayoutSettings := ⟨false, .v81, .standard⟩
    let row : Row := ⟨.ofTypes ["2", "a", "2", "b", "a", "2"] [],
      [.int 0, .text "x", .null, .text "y", .text "x", .int 0]⟩
    row.columns.count = row.size ∧ ∃ byName : OrderedMap String ColumnGroup,
      layOut s row .named .empty = .done (.ok (.groups byName), .empty) ∧
      byName.keys = ["2", "a", "b"] ∧ byName.get? "b" = some (.one (.text "y")) ∧
      byName.get? "2" = some (.many [.int 0, .null, .int 0]) ∧
      deal (membersOf byName) ["2", "a", "2", "b", "a", "2"] = row.pairs := by
  intro s row
  obtain ⟨byName, laid, keys, one, many, -, -, recovered⟩ := layOut_named_every_value s row .empty rfl
  obtain ⟨v, only, single⟩ := one "b" (by decide) (by decide)
  cases only
  exact ⟨rfl, byName, laid, keys.trans (by decide), single, many "2" (by decide) (by decide), recovered⟩

end Layout
end SqlBridge
