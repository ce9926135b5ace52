import SqlBridge.Class.Script
import SqlBridge.Proofs.Class.Lookup
import SqlBridge.Proofs.Fetch.ChosenMode

/-! # Equal fetch modes

Numbers, values and modes are compared by a canonical form. Two of them are equal exactly if
they have the same one; a NaN has none, and neither has a mode with a NaN among its
arguments, so that these are not even equal to themselves. A mode and its canonical form have
one style and name one class, and lay out rows in the same way if no argument is a float.
-/

namespace SqlBridge

namespace Binary64
variable {x y n : Binary64}

/-- The canonical form of a number: the positive zero for both zeros, and nothing for a NaN. -/
def canonical? (x : Binary64) : Option Binary64 :=
  if x.isNaN then none else some (if x.isZero then zero false else x)

theorem canonical?_eq_none_iff : x.canonical? = none ↔ x.isNaN = true := by
  simp [canonical?]

theorem canonical?_of_isZero (sound : x.isNaN = false) (zero : x.isZero = true) :
    x.canonical? = some (.zero false) := by
  simp [canonical?, sound, zero]

theorem canonical?_of_nonzero (sound : x.isNaN = false) (nonzero : x.isZero = false) :
    x.canonical? = some x := by
  simp [canonical?, sound, nonzero]

/-- A number and its canonical form are both zero, or they are the same. -/
theorem canonical?_cases (form : x.canonical? = some n) :
    x.isNaN = false ∧ x.isZero = n.isZero ∧ (x.isZero = false → x = n) := by
  cases sound : x.isNaN with
  | true =>
    rw [canonical?_eq_none_iff.mpr sound] at form
    cases form
  | false =>
    cases zero : x.isZero with
    | true =>
      rw [canonical?_of_isZero sound zero] at form
      cases form
      exact ⟨rfl, by decide +kernel, nofun⟩
    | false =>
      rw [canonical?_of_nonzero sound zero] at form
      cases form
      exact ⟨rfl, zero.symm, fun _ => rfl⟩

theorem numEq_eq_true : x.numEq y = true ↔
    x.isNaN = false ∧ y.isNaN = false ∧ (x = y ∨ x.isZero = true ∧ y.isZero = true) := by
  have bits : x.bits = y.bits ↔ x = y := by rw [← mk.injEq x.bits y.bits]
  simp [numEq, bits, and_assoc]

/-- Numbers are equal if they have the same canonical form. -/
theorem numEq_iff : x.numEq y = true ↔ ∃ n, x.canonical? = some n ∧ y.canonical? = some n := by
  rw [numEq_eq_true]
  constructor
  · rintro ⟨sound, sound', rfl | ⟨zero, zero'⟩⟩
    · cases zero : x.isZero with
      | true => exact ⟨_, canonical?_of_isZero sound zero, canonical?_of_isZero sound zero⟩
      | false => exact ⟨_, canonical?_of_nonzero sound zero, canonical?_of_nonzero sound zero⟩
    · exact ⟨_, canonical?_of_isZero sound zero, canonical?_of_isZero sound' zero'⟩
  · rintro ⟨n, form, form'⟩
    obtain ⟨sound, zero, same⟩ := canonical?_cases form
    obtain ⟨sound', zero', same'⟩ := canonical?_cases form'
    refine ⟨sound, sound', ?_⟩
    cases which : n.isZero with
    | true => exact .inr ⟨zero.trans which, zero'.trans which⟩
    | false => exact .inl ((same (zero.trans which)).trans (same' (zero'.trans which)).symm)

end Binary64

namespace Value
variable {v a b k : Value} {vs as bs ks : List Value}

/-- The canonical form of a value. Only a float may have another one than itself, or none. -/
def canonical? : Value → Option Value
  | float x => x.canonical?.map float
  | v => some v

theorem canonical?_of_ne_float (other : ∀ x, v ≠ float x) : v.canonical? = some v := by
  cases v with
  | float x => exact absurd rfl (other x)
  | _ => rfl

theorem canonical?_eq_none_iff : v.canonical? = none ↔ ∃ x, v = float x ∧ x.isNaN = true := by
  cases v with
  | float x => simp [canonical?, Binary64.canonical?_eq_none_iff]
  | _ => simp [canonical?]

theorem sameAs_iff : a.sameAs b = true ↔ ∃ k, a.canonical? = some k ∧ b.canonical? = some k := by
  cases a <;> cases b <;> simp [sameAs, canonical?, Binary64.numEq_iff]
  all_goals exact eq_comm

theorem mapM_canonical?_iff :
    vs.mapM canonical? = some ks ↔ vs.Forall₂ (fun v k => v.canonical? = some k) ks := by
  induction vs generalizing ks with
  | nil => simp [eq_comm]
  | cons v vs ih => cases ks <;> simp [List.mapM_cons, Option.bind_eq_some_iff, ih]

theorem allSame_iff : allSame as bs = true ↔
    ∃ ks, as.mapM canonical? = some ks ∧ bs.mapM canonical? = some ks := by
  simp only [mapM_canonical?_iff]
  induction as generalizing bs with
  | nil => cases bs <;> simp [allSame]
  | cons a as ih =>
    cases bs with
    | nil => simp [allSame]
    | cons b bs =>
      simp only [allSame, Bool.and_eq_true, sameAs_iff, ih]
      constructor
      · rintro ⟨⟨k, h, h'⟩, ks, hs, hs'⟩
        exact ⟨k :: ks, .cons h hs, .cons h' hs'⟩
      · rintro ⟨_, form, form'⟩
        cases form with
        | cons h hs => cases form' with | cons h' hs' => exact ⟨⟨_, h, h'⟩, _, hs, hs'⟩

theorem mapM_canonical?_of_ne_float (others : ∀ x, float x ∉ vs) : vs.mapM canonical? = some vs := by
  rw [mapM_canonical?_iff, List.forall₂_same]
  intro v mem
  exact canonical?_of_ne_float fun x same => others x (same ▸ mem)

/-- A canonical form that is no float is that of itself alone. -/
theorem eq_of_canonical? (form : v.canonical? = some k) (other : ∀ x, k ≠ float x) : v = k := by
  cases v with
  | float x =>
    obtain ⟨n, -, same⟩ := Option.map_eq_some_iff.mp form
    exact absurd same.symm (other n)
  | _ => exact Option.some_inj.mp form

theorem eq_of_mapM_canonical? (form : vs.mapM canonical? = some ks) (others : ∀ x, float x ∉ ks) :
    vs = ks := by
  rw [mapM_canonical?_iff] at form
  induction form with
  | nil => rfl
  | cons h _ ih =>
    simp only [List.mem_cons, not_or] at others
    rw [eq_of_canonical? h fun x same => (others x).1 same.symm, ih fun x => (others x).2]

theorem mapM_canonical?_eq_none_iff : vs.mapM canonical? = none ↔ ∃ v ∈ vs, v.canonical? = none := by
  induction vs with
  | nil => simp
  | cons v vs ih =>
    simp only [List.mem_cons, exists_eq_or_imp, ← ih]
    cases first : v.canonical? <;> cases rest : vs.mapM canonical? <;>
      simp [List.mapM_cons, first, rest]

end Value

namespace FetchMode
open Text
variable {a b k : FetchMode}

/-- The canonical form of a mode: the folded name of the class and the canonical forms of the arguments. -/
def canonical? : FetchMode → Option FetchMode
  | ofClass className args late =>
    (args.mapM Value.canonical?).map fun ks => ofClass (foldCase className) ks late
  | mode => some mode

theorem sameAs_ofClass {className className' : String} {args args' : List Value} {late late' : Bool} :
    (ofClass className args late).sameAs (ofClass className' args' late') = true ↔
      foldCase className = foldCase className' ∧ Value.allSame args args' = true ∧ late = late' := by
  simp [sameAs, and_assoc]

theorem sameAs_iff : a.sameAs b = true ↔ ∃ k, a.canonical? = some k ∧ b.canonical? = some k := by
  cases a with
  | ofClass className args late =>
    cases b with
    | ofClass className' args' late' =>
      rw [sameAs_ofClass, Value.allSame_iff]
      constructor
      · rintro ⟨named, ⟨ks, form, form'⟩, rfl⟩
        exact ⟨ofClass (foldCase className) ks late, by simp [canonical?, form],
          by simp [canonical?, form', named]⟩
      · rintro ⟨k, form, form'⟩
        obtain ⟨ks, given, rfl⟩ := Option.map_eq_some_iff.mp form
        obtain ⟨ks', given', same⟩ := Option.map_eq_some_iff.mp form'
        obtain ⟨named, rfl, rfl⟩ := ofClass.inj same
        exact ⟨named.symm, ⟨ks', given, given'⟩, rfl⟩
    | _ => cases late <;> simp [sameAs, style, canonical?]
  | into target =>
    cases b with
    | ofClass className args late => cases late <;> simp [sameAs, style, canonical?]
    | into target' => simp [sameAs, canonical?, @eq_comm ObjectId target target']
    | _ => simp [sameAs, style, canonical?]
  | _ =>
    cases b with
    | ofClass className args late => cases late <;> simp [sameAs, style, canonical?]
    | _ => simp [sameAs, style, canonical?]

theorem style_canonical (form : a.canonical? = some k) : k.style = a.style := by
  cases a with
  | ofClass className args late =>
    obtain ⟨ks, -, rfl⟩ := Option.map_eq_some_iff.mp form
    rfl
  | _ =>
    cases form
    rfl

theorem definition?_canonical (form : a.canonical? = some k) (classes : ClassTable) :
    k.definition? classes = a.definition? classes := by
  cases a with
  | ofClass className args late =>
    obtain ⟨ks, -, rfl⟩ := Option.map_eq_some_iff.mp form
    exact classes.find?_foldCase className
  | _ =>
    cases form
    rfl

theorem canonical?_eq_none_iff : a.canonical? = none ↔
    ∃ className args late x, a = ofClass className args late ∧ .float x ∈ args ∧ x.isNaN = true := by
  cases a with
  | ofClass className args late =>
    simp [canonical?, Value.mapM_canonical?_eq_none_iff, Value.canonical?_eq_none_iff]
  | _ => simp [canonical?]

/-- The class is known, if it is a class mode, and no argument is a float. -/
def Definite (classes : ClassTable) (mode : FetchMode) : Prop :=
  ∀ className args late, mode = ofClass className args late →
    (classes.find? className).isSome = true ∧ ∀ x, .float x ∉ args

theorem Definite.canonical {classes : ClassTable} (definite : a.Definite classes)
    (form : a.canonical? = some k) : k.Definite classes := by
  cases a with
  | ofClass className args late =>
    obtain ⟨known, others⟩ := definite className args late rfl
    have named := definition?_canonical form classes
    obtain ⟨ks, same, rfl⟩ := Option.map_eq_some_iff.mp form
    rw [Value.mapM_canonical?_of_ne_float others] at same
    cases same
    intro className' args' late' same
    cases same
    exact ⟨(congrArg Option.isSome named).trans known, others⟩
  | _ =>
    cases form
    exact definite

/-- Every mode is laid out like its canonical form if that is definite. -/
theorem layOut_canonical {settings : LayoutSettings} (definite : k.Definite settings.classes)
    (form : a.canonical? = some k) (row : Row) (objects : ObjectStore) :
    layOut settings row a objects = layOut settings row k objects := by
  cases a with
  | ofClass className args late =>
    have named := definition?_canonical form settings.classes
    obtain ⟨ks, given, rfl⟩ := Option.map_eq_some_iff.mp form
    obtain ⟨known, others⟩ := definite _ _ _ rfl
    obtain ⟨c, found⟩ := Option.isSome_iff_exists.mp known
    have found' : settings.classes.find? className = some c := named.symm.trans found
    rw [Value.eq_of_mapM_canonical? given others]
    simp only [layOut, found, found']
  | _ =>
    cases form
    rfl

/-- Equality of modes is symmetric and transitive, and fails between a mode and itself exactly if it is a
class mode with a NaN among its arguments. Equal modes have one style, name one definition in every table,
or both none, and lay out every row in the same way if the class is known and no argument is a float. -/
theorem same_modes_interchangeable (a b c : FetchMode) :
    (a.sameAs b = true → b.sameAs a = true) ∧
      (a.sameAs b = true → b.sameAs c = true → a.sameAs c = true) ∧
      (a.sameAs b = true → a.style = b.style) ∧
      (a.sameAs a = true ↔ ¬ ∃ className args late x,
        a = ofClass className args late ∧ .float x ∈ args ∧ x.isNaN = true) ∧
      (a.sameAs b = true → ∀ classes : ClassTable, a.definition? classes = b.definition? classes) ∧
      (a.sameAs b = true → ∀ settings : LayoutSettings, a.Definite settings.classes →
        ∀ row objects, layOut settings row a objects = layOut settings row b objects) := by
  simp only [sameAs_iff]
  refine ⟨?_, ?_, ?_, ?_, ?_, ?_⟩
  · rintro ⟨k, ha, hb⟩
    exact ⟨k, hb, ha⟩
  · rintro ⟨k, ha, hb⟩ ⟨k', hb', hc⟩
    obtain rfl : k = k' := Option.some_inj.mp (hb.symm.trans hb')
    exact ⟨k, ha, hc⟩
  · rintro ⟨k, ha, hb⟩
    exact (style_canonical ha).symm.trans (style_canonical hb)
  · simp only [and_self, ← canonical?_eq_none_iff, ← Option.ne_none_iff_exists', ne_eq]
  · rintro ⟨k, ha, hb⟩ classes
    exact (definition?_canonical ha classes).symm.trans (definition?_canonical hb classes)
  · rintro ⟨k, ha, hb⟩ settings definite row objects
    have form := definite.canonical ha
    exact (layOut_canonical form ha row objects).trans (layOut_canonical form hb row objects).symm

/-- The class is registered under a third spelling, and its constructor shows the arguments. -/
theorem same_modes_interchangeable_spellings :
    let shows : Constructor := .ofActions [.set "first" (.argument 0), .set "count" .argumentCount]
    let settings : LayoutSettings := ⟨true, .v81, .insertAll .standard [⟨"\\pOINT", some shows⟩]⟩
    let row : Row := ⟨⟨["first", "x"], [none, none]⟩, [.text "1", .float (.zero true)]⟩
    let mode (className : String) : FetchMode := .ofClass className [.int 7, .null] true
    (mode "Point").sameAs (mode "pOiNt") = true ∧ (mode "pOiNt").sameAs (mode "POINT") = true ∧
      (mode "pOiNt").sameAs (mode "Point") = true ∧ (mode "Point").sameAs (mode "POINT") = true ∧
      (mode "Point").style = (mode "pOiNt").style ∧ (mode "Point").sameAs (mode "Point") = true ∧
      (mode "Point").definition? settings.classes = (mode "pOiNt").definition? settings.classes ∧
      (mode "Point").Definite settings.classes ∧
      layOut settings row (mode "Point") .empty = layOut settings row (mode "pOiNt") .empty := by
  intro shows settings row mode
  have equal : (mode "Point").sameAs (mode "pOiNt") = true := by decide +kernel
  have equal' : (mode "pOiNt").sameAs (mode "POINT") = true := by decide +kernel
  have definite : (mode "Point").Definite settings.classes := by
    intro className args late same
    cases same
    exact ⟨by decide +kernel, by simp⟩
  obtain ⟨symm, trans, style, self, definition, laid⟩ :=
    same_modes_interchangeable (mode "Point") (mode "pOiNt") (mode "POINT")
  refine ⟨equal, equal', symm equal, trans equal equal', style equal, self.mpr ?_,
    definition equal settings.classes, definite, laid equal settings definite row .empty⟩
  rintro ⟨className, args, late, x, same, mem, -⟩
  exact (definite className args late same).2 x mem

/-- The two zeros are equal, although a constructor can tell them apart. -/
example :
    (ofClass "p" [.float (.zero false)] false).sameAs (ofClass "P" [.float (.zero true)] false) = true ∧
      (ofClass "p" [.float .nan] false).sameAs (ofClass "p" [.float .nan] false) = false := by
  decide +kernel

end FetchMode
end SqlBridge
