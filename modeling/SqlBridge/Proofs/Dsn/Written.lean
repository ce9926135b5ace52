import Mathlib.Data.List.TakeWhile
import SqlBridge.Dsn
import SqlBridge.Proofs.Text.Doubled

/-! # Written data source names

A list of keys and values is written as a data source name: blanks may stand
before each key, the semicolons of the database name are doubled, and the last
field may be closed by a semicolon. Reading what was written gives the keys and
values back in their order. Names that were written otherwise are not treated.
-/

namespace SqlBridge.Dsn
open Text (doubled doubled_cons_of_ne mem_doubled)

theorem splitAt?_append {c : Char} {as : List Char} (hc : c ∉ as) (bs : List Char) :
    splitAt? c (as ++ c :: bs) = some (as, bs) := by
  induction as with
  | nil => simp [splitAt?]
  | cons a as ih =>
    rw [List.mem_cons, not_or] at hc
    simp [splitAt?, Ne.symm hc.1, ih hc.2]

theorem untilNul_of_notMem {cs : List Char} (h : '\x00' ∉ cs) : untilNul cs = cs := by
  apply List.takeWhile_eq_self_iff.mpr
  intro c hc
  simpa using fun e : c = '\x00' => h (e ▸ hc)

theorem trimKey_append {blanks key : List Char} (hb : ∀ c ∈ blanks, c ∈ keyBlanks)
    (hk : ∀ c ∈ key.head?, c ∉ keyBlanks) : trimKey (blanks ++ key) = key := by
  have hbs : ∀ c ∈ blanks, keyBlanks.contains c = true := fun c hc => by simpa using hb c hc
  rw [trimKey, List.dropWhile_append_of_pos hbs]
  cases key with
  | nil => rfl
  | cons c key =>
    rw [List.dropWhile_cons_of_neg (by simpa using hk c rfl)]

/-! ## Segments -/

theorem segments_eq_cons (cs : List Char) : ∃ s rest, segments cs = s :: rest := by
  induction cs with
  | nil => exact ⟨[], [], rfl⟩
  | cons c cs ih =>
    obtain ⟨s, rest, h⟩ := ih
    by_cases hc : c = ';'
    · exact ⟨[], segments cs, by simp [segments, hc]⟩
    · exact ⟨c :: s, rest, by simp [segments, hc, h]⟩

theorem segments_append {as cs s : List Char} {rest : List (List Char)} (h : ';' ∉ as)
    (hs : segments cs = s :: rest) : segments (as ++ cs) = (as ++ s) :: rest := by
  induction as with
  | nil => exact hs
  | cons a as ih =>
    rw [List.mem_cons, not_or] at h
    simp [segments, Ne.symm h.1, ih h.2]

theorem segments_of_notMem {cs : List Char} (h : ';' ∉ cs) : segments cs = [cs] := by
  have empty : segments [] = [[]] := rfl
  simpa using segments_append h empty

theorem segments_append_semicolon (as bs : List Char) :
    segments (as ++ ';' :: bs) = segments as ++ segments bs := by
  induction as with
  | nil => simp [segments]
  | cons a as ih =>
    obtain ⟨s, rest, h⟩ := segments_eq_cons as
    by_cases ha : a = ';'
    · simp [segments, ha, ih]
    · simp [segments, ha, ih, h]

theorem segments_intercalate (text : List Char) (texts : List (List Char)) :
    segments ([';'].intercalate (text :: texts)) = segments text ++ texts.flatMap segments := by
  induction texts generalizing text with
  | nil => simp
  | cons next texts ih =>
    rw [List.intercalate_cons_cons, List.append_assoc, List.singleton_append,
      segments_append_semicolon, ih, List.flatMap_cons]

/-- A text is its segments with a semicolon before each one but the first. -/
theorem join_segments {cs s : List Char} {rest : List (List Char)} (h : segments cs = s :: rest) :
    s ++ rest.flatMap (';' :: ·) = cs := by
  induction cs generalizing s rest with
  | nil =>
    obtain ⟨rfl, rfl⟩ := List.cons.inj h
    rfl
  | cons c cs ih =>
    obtain ⟨s', rest', h'⟩ := segments_eq_cons cs
    by_cases hc : c = ';'
    · simp only [segments, hc, ite_true, h', List.cons.injEq] at h
      obtain ⟨rfl, rfl⟩ := h
      simp [ih h', hc]
    · simp only [segments, hc, ite_false, h', List.cons.injEq] at h
      obtain ⟨rfl, rfl⟩ := h
      simp [ih h']

/-! ## The database name -/

/-- Each piece stands alone, with an empty segment before it. -/
def apart (pieces : List (List Char)) : List (List Char) := pieces.flatMap fun p => [[], p]

theorem segments_doubled {cs s : List Char} {rest : List (List Char)}
    (h : segments cs = s :: rest) : segments (doubled ';' cs) = s :: apart rest := by
  induction cs generalizing s rest with
  | nil =>
    obtain ⟨rfl, rfl⟩ := List.cons.inj h
    rfl
  | cons c cs ih =>
    obtain ⟨s', rest', h'⟩ := segments_eq_cons cs
    have hd := ih h'
    by_cases hc : c = ';'
    · simp only [segments, hc, ite_true, h', List.cons.injEq] at h
      obtain ⟨rfl, rfl⟩ := h
      simp [segments, hc, hd, apart]
    · simp only [segments, hc, ite_false, h', List.cons.injEq] at h
      obtain ⟨rfl, rfl⟩ := h
      rw [doubled_cons_of_ne hc]
      simp [segments, hc, hd]

/-- No value grows into these segments. -/
def Closed (rest : List (List Char)) : Prop := ∀ value, extend value rest = (value, rest)

theorem closed_nil : Closed [] := fun _ => by rw [extend]; simp

theorem closed_singleton (s : List Char) : Closed [s] := fun _ => by rw [extend]; simp

theorem closed_cons {s : List Char} (hs : s ≠ []) (rest : List (List Char)) :
    Closed (s :: rest) := fun _ => by
  rw [extend]
  simp [hs]

/-- A value takes back exactly the pieces that were set apart. -/
theorem extend_apart (pieces : List (List Char)) {rest : List (List Char)} (closed : Closed rest)
    (value : List Char) :
    extend value (apart pieces ++ rest) = (value ++ pieces.flatMap (';' :: ·), rest) := by
  induction pieces generalizing value with
  | nil => simpa [apart] using closed value
  | cons p pieces ih =>
    have step : extend value (apart (p :: pieces) ++ rest) =
        extend (value ++ ';' :: p) (apart pieces ++ rest) := by
      simp [apart, extend]
    rw [step, ih]
    simp

/-! ## Fields -/

/-- A key and a value that can be written, with the blanks before the key. Only the value of the
database name may hold semicolons. -/
structure Field where
  blanks : List Char
  key : String
  value : String
  blanks_blank : ∀ c ∈ blanks, c ∈ keyBlanks
  key_plain : '=' ∉ key.toList ∧ ';' ∉ key.toList ∧ '\x00' ∉ key.toList
  key_start : ∀ c ∈ key.toList.head?, c ∉ keyBlanks
  value_noNul : '\x00' ∉ value.toList
  value_plain : key ≠ "dbname" → ';' ∉ value.toList

namespace Field

def pair (f : Field) : String × String := (f.key, f.value)

def shownValue (f : Field) : List Char :=
  if f.key = "dbname" then doubled ';' f.value.toList else f.value.toList

def text (f : Field) : List Char := f.blanks ++ f.key.toList ++ '=' :: f.shownValue

theorem toList_key_eq_iff (f : Field) : f.key.toList = databaseKey ↔ f.key = "dbname" := by
  constructor
  · intro h
    rw [← String.ofList_toList (s := f.key), h]
    rfl
  · intro h
    rw [h]
    rfl

theorem notMem_blanks (f : Field) {c : Char} (hc : c ∉ keyBlanks) : c ∉ f.blanks :=
  fun h => hc (f.blanks_blank c h)

theorem nul_notMem_text (f : Field) : '\x00' ∉ f.text := by
  have hv : '\x00' ∉ f.shownValue := by
    unfold shownValue
    split
    · exact mt mem_doubled.mp f.value_noNul
    · exact f.value_noNul
  simp [text, f.notMem_blanks (c := '\x00') (by decide), f.key_plain.2.2, hv]

def head (f : Field) (s : List Char) : List Char := f.blanks ++ f.key.toList ++ '=' :: s

theorem splitAt?_head (f : Field) (s : List Char) :
    splitAt? '=' (f.head s) = some (f.blanks ++ f.key.toList, s) := by
  refine splitAt?_append ?_ s
  simp [f.notMem_blanks (c := '=') (by decide), f.key_plain.1]

theorem segments_head (f : Field) {cs s : List Char} {rest : List (List Char)}
    (h : segments cs = s :: rest) : segments (f.head cs) = f.head s :: rest := by
  have hsemi : ';' ∉ f.blanks ++ f.key.toList ++ ['='] := by
    simp [f.notMem_blanks (c := ';') (by decide), f.key_plain.2.1]
  simpa [head] using segments_append hsemi h

theorem segments_text (f : Field) : ∃ s rest, segments f.text = f.head s :: rest := by
  obtain ⟨s, rest, h⟩ := segments_eq_cons f.shownValue
  exact ⟨s, rest, f.segments_head h⟩

/-- Reading one written field writes its value under its key and goes on behind it. -/
theorem collect_text (f : Field) (params : Params) {rest : List (List Char)}
    (closed : Closed rest) :
    collect params (segments f.text ++ rest) = collect (params.insert f.key f.value) rest := by
  have hkey : trimKey (f.blanks ++ f.key.toList) = f.key.toList :=
    trimKey_append f.blanks_blank f.key_start
  by_cases hdb : f.key = "dbname"
  · obtain ⟨s, pieces, h⟩ := segments_eq_cons f.value.toList
    have hsegs : segments f.text = f.head s :: apart pieces := by
      rw [text, shownValue, if_pos hdb]
      exact f.segments_head (segments_doubled h)
    rw [hsegs, List.cons_append, collect, f.splitAt?_head]
    simp only [hkey, if_pos (f.toList_key_eq_iff.2 hdb), extend_apart pieces closed, join_segments h,
      String.ofList_toList]
  · have hsegs : segments f.text = [f.head f.value.toList] := by
      rw [text, shownValue, if_neg hdb]
      exact f.segments_head (segments_of_notMem (f.value_plain hdb))
    rw [hsegs, List.singleton_append, collect, f.splitAt?_head]
    simp only [hkey, if_neg (mt f.toList_key_eq_iff.1 hdb), String.ofList_toList]

end Field

def write (fields : List Field) (last : Bool) : String :=
  String.ofList ([';'].intercalate (fields.map Field.text) ++ if last then [';'] else [])

theorem closed_fields (fields : List Field) {rest : List (List Char)} (closed : Closed rest) :
    Closed (fields.flatMap (segments ∘ Field.text) ++ rest) := by
  cases fields with
  | nil => exact closed
  | cons f fields =>
    obtain ⟨s, pieces, h⟩ := f.segments_text
    rw [List.flatMap_cons, Function.comp_apply, h]
    exact closed_cons (by simp [Field.head]) _

theorem collect_fields (fields : List Field) (params : Params) {rest : List (List Char)}
    (closed : Closed rest) :
    collect params (fields.flatMap (segments ∘ Field.text) ++ rest) =
      collect (params.insertAll (fields.map Field.pair)) rest := by
  induction fields generalizing params with
  | nil => rfl
  | cons f fields ih =>
    rw [List.flatMap_cons, List.append_assoc, Function.comp_apply,
      f.collect_text params (closed_fields fields closed), ih]
    rfl

theorem notMem_intercalate {c : Char} (hc : c ≠ ';') {texts : List (List Char)}
    (h : ∀ text ∈ texts, c ∉ text) : c ∉ [';'].intercalate texts := by
  induction texts with
  | nil => simp
  | cons text texts ih =>
    have htext := h text (by simp)
    have ih := ih fun t ht => h t (by simp [ht])
    cases texts with
    | nil => simpa using htext
    | cons next texts => simp [List.intercalate_cons_cons, hc, htext, ih]

theorem nul_notMem_write (fields : List Field) (last : Bool) :
    '\x00' ∉ (write fields last).toList := by
  have hfields : '\x00' ∉ [';'].intercalate (fields.map Field.text) :=
    notMem_intercalate (by decide) (by simpa using fun f _ => f.nul_notMem_text)
  cases last <;> simp [write, hfields]

/-- What follows the last field: nothing, or a segment that holds nothing. -/
def ending (last : Bool) : List (List Char) := if last then [[]] else []

theorem closed_ending (last : Bool) : Closed (ending last) := by
  cases last
  · exact closed_nil
  · exact closed_singleton []

theorem collect_ending (params : Params) (last : Bool) : collect params (ending last) = params := by
  cases last <;> simp [ending, collect, splitAt?]

theorem segments_fields (f : Field) (fields : List Field) (last : Bool) :
    segments ([';'].intercalate ((f :: fields).map Field.text) ++ if last then [';'] else []) =
      (f :: fields).flatMap (segments ∘ Field.text) ++ ending last := by
  have hfields : segments ([';'].intercalate ((f :: fields).map Field.text)) =
      (f :: fields).flatMap (segments ∘ Field.text) := by
    rw [List.map_cons, segments_intercalate, List.flatMap_map, List.flatMap_cons]
    rfl
  cases last with
  | false => simpa only [ending, Bool.false_eq_true, ite_false, List.append_nil] using hfields
  | true =>
    simp only [ending, ite_true]
    rw [segments_append_semicolon, hfields]
    rfl

theorem parse_write_eq_ofList (fields : List Field) (last : Bool) :
    parse (write fields last) = .ofList (fields.map Field.pair) := by
  rw [parse, untilNul_of_notMem (nul_notMem_write fields last), write, String.toList_ofList]
  cases fields with
  | nil => cases last <;> simp [segments, collect, splitAt?, OrderedMap.ofList, OrderedMap.insertAll]
  | cons f fields =>
    rw [segments_fields, collect_fields _ _ (closed_ending last), collect_ending]
    rfl

/-- Reading what was written gives exactly the keys and values, in their order. -/
theorem parse_write (fields : List Field) (last : Bool) (nodup : (fields.map Field.key).Nodup) :
    (parse (write fields last)).entries = fields.map Field.pair := by
  have hkeys : ((OrderedMap.empty : Params).keys ++ (fields.map Field.pair).map Prod.fst).Nodup := by
    simpa [OrderedMap.keys, OrderedMap.empty, Field.pair, Function.comp_def] using nodup
  rw [parse_write_eq_ofList, OrderedMap.ofList, OrderedMap.entries_insertAll _ _ hkeys]
  rfl

/-- A database name that starts and ends with semicolons stands before a key behind blanks. -/
theorem parse_write_semicolons :
    let name : Field := ⟨[], "dbname", ";w;;=p ;", by simp, by simp, by simp [keyBlanks], by simp,
      by simp⟩
    let path : Field := ⟨[' ', '\t'], "path", "a=b ", by simp [keyBlanks], by simp,
      by simp [keyBlanks], by simp, by simp⟩
    (parse (write [name, path] true)).entries = [("dbname", ";w;;=p ;"), ("path", "a=b ")] :=
  parse_write _ true (by simp)

end SqlBridge.Dsn
