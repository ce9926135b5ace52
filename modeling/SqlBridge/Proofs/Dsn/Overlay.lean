import SqlBridge.Proofs.Dsn.Written

/-! # Any data source name

A text need not have been written for this reader. Whatever it holds, its keys and
values have the form of a field, and a semicolon between two texts keeps them
apart: what the second one says is laid over what the first one says. Only where
semicolons meet could the database name of the first text take up the second.
-/

namespace SqlBridge

/-! ## Maps laid over one another -/

namespace OrderedMap
variable {κ α : Type} [DecidableEq κ]

/-- The whole is the second map laid over the first: keys that only the second has come behind, and
where both have a key the value is that of the second. -/
structure Overlays (first second whole : OrderedMap κ α) : Prop where
  keys : whole.keys = first.keys ++ second.keys.filter (· ∉ first.keys)
  get? (k : κ) : whole.get? k = (second.get? k).or (first.get? k)

namespace Overlays
variable {first second whole : OrderedMap κ α}

theorem empty (first : OrderedMap κ α) : Overlays first .empty first where
  keys := (List.append_nil _).symm
  get? _ := rfl

theorem insert (overlays : Overlays first second whole) (k : κ) (v : α) :
    Overlays first (second.insert k v) (whole.insert k v) where
  keys := by
    rw [keys_insert, keys_insert, overlays.keys]
    by_cases old : k ∈ first.keys <;> by_cases new : k ∈ second.keys <;>
      simp [old, new, List.filter_append]
  get? k' := by
    rw [get?_insert, get?_insert, overlays.get?]
    split <;> rfl

theorem insertAll (overlays : Overlays first second whole) (pairs : List (κ × α)) :
    Overlays first (second.insertAll pairs) (whole.insertAll pairs) := by
  induction pairs generalizing second whole with
  | nil => exact overlays
  | cons p pairs ih => exact ih (overlays.insert p.1 p.2)

end Overlays

theorem mem_of_lookup {k : κ} {v : α} {entries : List (κ × α)} (found : lookup k entries = some v) :
    (k, v) ∈ entries := by
  induction entries with
  | nil => cases found
  | cons e rest ih =>
    rw [lookup] at found
    split at found
    next same =>
      cases found
      rw [← same]
      exact List.mem_cons_self
    next => exact List.mem_cons_of_mem e (ih found)

theorem mem_of_get?_ofList {k : κ} {v : α} {pairs : List (κ × α)}
    (found : (ofList pairs).get? k = some v) : (k, v) ∈ pairs := by
  rw [ofList, get?_insertAll, get?_empty, Option.or_none] at found
  exact List.mem_reverse.mp (mem_of_lookup found)

end OrderedMap

namespace Dsn

/-! ## Segments of any text -/

theorem of_splitAt? {c : Char} {cs before after : List Char}
    (split : splitAt? c cs = some (before, after)) : cs = before ++ c :: after ∧ c ∉ before := by
  induction cs generalizing before with
  | nil => cases split
  | cons d cs ih =>
    rw [splitAt?] at split
    split at split
    next same =>
      cases split
      simp [same]
    next other =>
      obtain ⟨p, rest, same⟩ := Option.map_eq_some_iff.mp split
      cases same
      obtain ⟨rfl, absent⟩ := ih rest
      simp [absent, Ne.symm other]

theorem mem_of_mem_segments {cs s : List Char} (mem : s ∈ segments cs) :
    ';' ∉ s ∧ ∀ c ∈ s, c ∈ cs := by
  induction cs generalizing s with
  | nil =>
    obtain rfl : s = [] := by simpa [segments] using mem
    simp
  | cons d cs ih =>
    obtain ⟨first, rest, h⟩ := segments_eq_cons cs
    rw [h] at ih
    have later {s : List Char} (mem : s ∈ first :: rest) : ';' ∉ s ∧ ∀ c ∈ s, c ∈ d :: cs :=
      ⟨(ih mem).1, fun c there => List.mem_cons_of_mem d ((ih mem).2 c there)⟩
    by_cases semicolon : d = ';'
    · simp only [segments, semicolon, if_true, h, List.mem_cons] at mem
      obtain rfl | mem := mem
      · simp
      · exact later (List.mem_cons.mpr mem)
    · simp only [segments, semicolon, if_false, h, List.mem_cons] at mem
      obtain rfl | mem := mem
      · obtain ⟨plain, there⟩ := later (List.mem_cons_self (a := first) (l := rest))
        exact ⟨by simp [plain, Ne.symm semicolon], by simpa using there⟩
      · exact later (List.mem_cons_of_mem first mem)

/-- The last segment is empty only if the text is, or if it ends with a semicolon. -/
theorem getLast?_segments {cs : List Char} (nonempty : cs ≠ []) (ended : cs.getLast? ≠ some ';') :
    (segments cs).getLast? ≠ some [] := by
  induction cs with
  | nil => exact absurd rfl nonempty
  | cons d cs ih =>
    obtain ⟨first, rest, h⟩ := segments_eq_cons cs
    by_cases more : cs = []
    · subst more
      have other : d ≠ ';' := by simpa using ended
      simp [segments, other]
    · rw [List.getLast?_cons_of_ne_nil more] at ended
      have ih := ih more ended
      rw [h] at ih
      by_cases semicolon : d = ';'
      · simpa [segments, semicolon, h] using ih
      · simp only [segments, semicolon, if_false, h]
        cases rest with
        | nil => simp
        | cons s rest => simpa using ih

/-- No value grows into a text that starts with something else than a semicolon. -/
theorem closed_segments {cs : List Char} (started : cs.head? ≠ some ';') : Closed (segments cs) := by
  cases cs with
  | nil => exact closed_singleton []
  | cons c cs =>
    have other : c ≠ ';' := by simpa using started
    obtain ⟨s, rest, h⟩ := segments_eq_cons cs
    simp only [segments, other, if_false, h]
    exact closed_cons (List.cons_ne_nil c s) rest

theorem untilNul_append {as : List Char} (noNul : '\x00' ∉ as) (bs : List Char) :
    untilNul (as ++ bs) = as ++ untilNul bs :=
  List.takeWhile_append_of_pos fun c there => by
    simpa using fun nul : c = '\x00' => noNul (nul ▸ there)

/-- A NUL ends the text, and so does an earlier one. -/
theorem untilNul_append_nul (as bs : List Char) : untilNul (as ++ '\x00' :: bs) = untilNul as := by
  rw [untilNul, untilNul, List.takeWhile_append]
  split
  next whole =>
    have same := (List.takeWhile_prefix _).eq_of_length whole
    rw [List.takeWhile_cons_of_neg (by simp), List.append_nil, same]
  next => rfl

/-! ## What segments say -/

theorem extend_suffix (value : List Char) (segs : List (List Char)) :
    (extend value segs).2 <:+ segs := by
  fun_induction extend value segs with
  | case1 value next rest ih => exact ih.trans ⟨[[], next], rfl⟩
  | case2 => exact List.suffix_refl _

/-- A value that has not grown to the end of the segments does not grow behind it. -/
theorem extend_append {segs segs' : List (List Char)} (ended : segs.getLast? ≠ some [])
    (closed : Closed segs') (value : List Char) :
    extend value (segs ++ segs') = ((extend value segs).1, (extend value segs).2 ++ segs') := by
  fun_induction extend value segs with
  | case1 value next rest ih =>
    have ended' : rest.getLast? ≠ some [] := by
      cases rest <;> simp_all
    rw [List.cons_append, List.cons_append, extend]
    exact ih ended'
  | case2 value segs stays =>
    rcases segs with - | ⟨- | ⟨c, s⟩, rest⟩
    · exact closed value
    · cases rest with
      | nil => exact absurd rfl ended
      | cons next rest => exact absurd rfl (stays next rest)
    · exact closed_cons (List.cons_ne_nil c s) _ value

/-- The key and the value that the segment starts, and the segments that are left behind them. -/
def reading? (segment : List Char) (rest : List (List Char)) :
    Option ((String × String) × List (List Char)) :=
  (splitAt? '=' segment).map fun parts =>
    let grown := if trimKey parts.1 = databaseKey then extend parts.2 rest else (parts.2, rest)
    ((String.ofList (trimKey parts.1), String.ofList grown.1), grown.2)

theorem reading?_suffix {segment : List Char} {rest left : List (List Char)} {pair : String × String}
    (read : reading? segment rest = some (pair, left)) : left <:+ rest := by
  obtain ⟨parts, -, same⟩ := Option.map_eq_some_iff.mp read
  cases same
  split
  · exact extend_suffix _ _
  · exact List.suffix_refl _

theorem reading?_append {rest segs' : List (List Char)} (ended : rest.getLast? ≠ some [])
    (closed : Closed segs') (segment : List Char) :
    reading? segment (rest ++ segs') =
      (reading? segment rest).map fun found => (found.1, found.2 ++ segs') := by
  rw [reading?, reading?, Option.map_map]
  congr 1
  funext parts
  simp only [Function.comp_apply]
  split
  · rw [extend_append ended closed]
  · rfl

/-- The keys and values that segments hold, in order and with repetitions. -/
def readings : List (List Char) → List (String × String)
  | [] => []
  | segment :: rest =>
    match _read : reading? segment rest with
    | none => readings rest
    | some (pair, left) => pair :: readings left
termination_by segs => segs.length
decreasing_by
  · simp
  · have := (reading?_suffix _read).length_le
    simp
    omega

theorem readings_cons (segment : List Char) (rest : List (List Char)) :
    readings (segment :: rest) =
      match reading? segment rest with
      | none => readings rest
      | some (pair, left) => pair :: readings left := by
  rw [readings]
  split <;> simp only [*]

theorem collect_cons (params : Params) (segment : List Char) (rest : List (List Char)) :
    collect params (segment :: rest) =
      match reading? segment rest with
      | none => collect params rest
      | some (pair, left) => collect (params.insert pair.1 pair.2) left := by
  rw [collect, reading?]
  cases splitAt? '=' segment with
  | none => rfl
  | some parts =>
    simp only [Option.map_some]
    split <;> rfl

/-- Reading segments writes what they say, one after another. -/
theorem collect_eq_insertAll (params : Params) (segs : List (List Char)) :
    collect params segs = params.insertAll (readings segs) := by
  fun_induction readings segs generalizing params with
  | case1 => rw [collect]; rfl
  | case2 segment rest absent ih =>
    rw [collect_cons, absent]
    exact ih params
  | case3 segment rest pair left read ih =>
    rw [collect_cons, read]
    exact ih (params.insert pair.1 pair.2)

theorem parse_eq_ofList (text : String) :
    parse text = .ofList (readings (segments (untilNul text.toList))) :=
  collect_eq_insertAll _ _

theorem getLast?_suffix {segs left : List (List Char)} (ended : segs.getLast? ≠ some [])
    (suffix : left <:+ segs) : left.getLast? ≠ some [] := by
  obtain ⟨taken, rfl⟩ := suffix
  cases left with
  | nil => simp
  | cons s left => simpa [List.getLast?_append] using ended

/-- Segments that do not end with an empty one are read without a look at those behind them. -/
theorem readings_append {segs segs' : List (List Char)} (ended : segs.getLast? ≠ some [])
    (closed : Closed segs') : readings (segs ++ segs') = readings segs ++ readings segs' := by
  fun_induction readings segs with
  | case1 => rfl
  | case2 segment rest absent ih =>
    have ended' := getLast?_suffix ended (List.suffix_cons segment rest)
    rw [List.cons_append, readings_cons, reading?_append ended' closed, absent]
    exact ih ended'
  | case3 segment rest pair left read ih =>
    have ended' := getLast?_suffix ended (List.suffix_cons segment rest)
    rw [List.cons_append, readings_cons, reading?_append ended' closed, read]
    exact congrArg (pair :: ·) (ih (getLast?_suffix ended' (reading?_suffix read)))

/-! ## The form of what is read -/

/-- What every key and every value that is read obeys. Only a database name may hold semicolons. -/
structure WellFormed (key value : String) : Prop where
  start : ∀ c ∈ key.toList.head?, c ∉ keyBlanks
  key_plain : '=' ∉ key.toList ∧ ';' ∉ key.toList ∧ '\x00' ∉ key.toList
  value_noNul : '\x00' ∉ value.toList
  value_plain : key ≠ "dbname" → ';' ∉ value.toList

theorem head?_trimKey (cs : List Char) : ∀ c ∈ (trimKey cs).head?, c ∉ keyBlanks := by
  intro c there
  have stops := List.head?_dropWhile_not keyBlanks.contains cs
  rw [trimKey] at there
  rw [Option.mem_def.mp there] at stops
  simpa using stops

theorem notMem_extend {c : Char} (other : c ≠ ';') {value : List Char} {segs : List (List Char)}
    (first : c ∉ value) (later : ∀ s ∈ segs, c ∉ s) : c ∉ (extend value segs).1 := by
  fun_induction extend value segs with
  | case1 value next rest ih =>
    apply ih
    · simp [first, other, later next (by simp)]
    · exact fun s mem => later s (by simp [mem])
  | case2 => exact first

def PlainSegments (segs : List (List Char)) : Prop := ∀ s ∈ segs, ';' ∉ s ∧ '\x00' ∉ s

theorem plain_segments (cs : List Char) : PlainSegments (segments (untilNul cs)) := by
  intro s mem
  obtain ⟨noSemicolon, there⟩ := mem_of_mem_segments mem
  refine ⟨noSemicolon, fun nul => ?_⟩
  simpa using List.mem_takeWhile_imp (there _ nul)

theorem reading?_wellFormed {segment : List Char} {rest left : List (List Char)}
    {pair : String × String} (plain : PlainSegments (segment :: rest))
    (read : reading? segment rest = some (pair, left)) : WellFormed pair.1 pair.2 := by
  obtain ⟨⟨rawKey, value⟩, split, same⟩ := Option.map_eq_some_iff.mp read
  obtain ⟨rfl, noEquals⟩ := of_splitAt? split
  obtain ⟨noSemicolon, noNul⟩ := plain _ List.mem_cons_self
  have trimmed {c : Char} (absent : c ∉ rawKey) : c ∉ trimKey rawKey :=
    fun there => absent ((List.dropWhile_suffix _).subset there)
  cases same
  simp only [List.mem_append, List.mem_cons, not_or] at noSemicolon noNul
  refine ⟨?_, ?_, ?_, ?_⟩
  · rw [String.toList_ofList]
    exact head?_trimKey rawKey
  · rw [String.toList_ofList]
    exact ⟨trimmed noEquals, trimmed noSemicolon.1, trimmed noNul.1⟩
  · rw [String.toList_ofList]
    split
    · exact notMem_extend (by decide) noNul.2.2 fun s mem => (plain s (List.mem_cons_of_mem _ mem)).2
    · exact noNul.2.2
  · intro other
    have unnamed : trimKey rawKey ≠ databaseKey := fun named => other (by rw [named]; rfl)
    rw [String.toList_ofList, if_neg unnamed]
    exact noSemicolon.2.2

theorem wellFormed_of_mem_readings {segs : List (List Char)} (plain : PlainSegments segs)
    {pair : String × String} (mem : pair ∈ readings segs) : WellFormed pair.1 pair.2 := by
  fun_induction readings segs with
  | case1 => cases mem
  | case2 segment rest absent ih => exact ih (fun s there => plain s (List.mem_cons_of_mem _ there)) mem
  | case3 segment rest pair' left read ih =>
    obtain rfl | mem := List.mem_cons.mp mem
    · exact reading?_wellFormed plain read
    · exact ih (fun s there => plain s (List.mem_cons_of_mem _ ((reading?_suffix read).subset there))) mem

theorem parse_wellFormed (text : String) {key value : String}
    (mem : (key, value) ∈ (parse text).entries) : WellFormed key value := by
  have found : (parse text).get? key = some value :=
    (OrderedMap.lookup_eq_some_iff (parse text).nodup_keys).mpr mem
  rw [parse_eq_ofList] at found
  exact wellFormed_of_mem_readings (plain_segments _) (OrderedMap.mem_of_get?_ofList found)

/-! ## Texts joined by a semicolon -/

theorem readings_segments_joined {as bs : List Char} (ended : as.getLast? ≠ some ';')
    (started : bs.head? ≠ some ';') :
    readings (segments (as ++ ';' :: bs)) = readings (segments as) ++ readings (segments bs) := by
  rw [segments_append_semicolon]
  by_cases nonempty : as = []
  · have nothing : reading? [] (segments bs) = none := rfl
    have alone : readings [[]] = [] := by
      rw [readings_cons, show reading? [] [] = none from rfl, readings]
    rw [nonempty, show segments [] = [[]] from rfl, List.singleton_append, readings_cons, nothing, alone]
    rfl
  · exact readings_append (getLast?_segments nonempty ended) (closed_segments started)

/-- A semicolon between two texts keeps them apart, unless there is a semicolon on one of its sides: what
the second text says is laid over what the first one says. What follows a NUL is not read. Of any text no
key is read twice, and every key and value has the form of a field. -/
theorem parse_joined :
    (∀ a b : String, '\x00' ∉ a.toList → a.toList.getLast? ≠ some ';' → b.toList.head? ≠ some ';' →
      (parse a).Overlays (parse b) (parse (a ++ ";" ++ b))) ∧
    (∀ a c : String, parse (a ++ "\x00" ++ c) = parse a) ∧
    ∀ text : String, (parse text).keys.Nodup ∧
      ∀ key value, (key, value) ∈ (parse text).entries → WellFormed key value := by
  refine ⟨?_, ?_, fun text => ⟨(parse text).nodup_keys, fun key value => parse_wellFormed text⟩⟩
  · intro a b noNul ended started
    have seen : untilNul (a ++ ";" ++ b).toList = a.toList ++ ';' :: untilNul b.toList := by
      rw [String.toList_append, String.toList_append, List.append_assoc, untilNul_append noNul]
      rfl
    have started' : (untilNul b.toList).head? ≠ some ';' := by
      rw [untilNul, List.head?_takeWhile]
      intro first
      exact started (Option.filter_eq_some_iff.mp first).1
    have whole : parse (a ++ ";" ++ b) =
        (parse a).insertAll (readings (segments (untilNul b.toList))) := by
      rw [parse_eq_ofList (a ++ ";" ++ b), seen, readings_segments_joined ended started',
        parse_eq_ofList a, untilNul_of_notMem noNul]
      exact List.foldl_append
    rw [whole, parse_eq_ofList b]
    exact (OrderedMap.Overlays.empty (parse a)).insertAll _
  · intro a c
    have seen : untilNul (a ++ "\x00" ++ c).toList = untilNul a.toList := by
      rw [String.toList_append, String.toList_append, List.append_assoc]
      exact untilNul_append_nul a.toList c.toList
    rw [parse_eq_ofList, parse_eq_ofList, seen]

/-- The first text names the database twice over and ends after doubled semicolons; the second one names it
again behind a blank, and has a key without a name. -/
theorem parse_joined_garbage :
    let a := "garbage;path=p;dbname=x;;;q"
    let b := " dbname=y;z; =w"
    '\x00' ∉ a.toList ∧ a.toList.getLast? ≠ some ';' ∧ b.toList.head? ≠ some ';' ∧
      (parse a).entries = [("path", "p"), ("dbname", "x;")] ∧
      (parse b).entries = [("dbname", "y"), ("", "w")] ∧
      (parse (a ++ ";" ++ b)).keys = ["path", "dbname", ""] ∧
      (parse (a ++ ";" ++ b)).get? "dbname" = some "y" := by
  intro a b
  have noNul : '\x00' ∉ a.toList := by decide
  have ended : a.toList.getLast? ≠ some ';' := by decide
  have started : b.toList.head? ≠ some ';' := by decide
  have first : (parse a).entries = [("path", "p"), ("dbname", "x;")] := by decide +kernel
  have second : (parse b).entries = [("dbname", "y"), ("", "w")] := by decide +kernel
  have overlays := parse_joined.1 a b noNul ended started
  refine ⟨noNul, ended, started, first, second, ?_, ?_⟩
  · rw [overlays.keys, OrderedMap.keys, OrderedMap.keys, first, second]
    rfl
  · rw [overlays.get?, OrderedMap.get?, second]
    rfl

end Dsn
end SqlBridge
