import SqlBridge.OrderedMap

/-! # Data source names

A data source name is a driver name, a colon and a list of keys with values.
Nothing after the first NUL is seen. Segments end at a semicolon and are split
at their first equals sign; blanks before a key are skipped and a segment
without an equals sign is ignored. Inside the value of `dbname` a doubled
semicolon stands for one.
-/

namespace SqlBridge.Dsn

def driverName : String := "mysql-on-sqlite"

/-- Keys and values in the order in which the keys were first seen. -/
abbrev Params := OrderedMap String String

def Params.path (p : Params) : Option String := p.get? "path"

def Params.dbname (p : Params) : Option String := p.get? "dbname"

def untilNul (cs : List Char) : List Char := cs.takeWhile (· != '\x00')

/-- Split at the first occurrence of a character, which is dropped. -/
def splitAt? (c : Char) : List Char → Option (List Char × List Char)
  | [] => none
  | d :: cs => if d = c then some ([], cs) else (splitAt? c cs).map fun p => (d :: p.1, p.2)

/-- Cut at every semicolon. There is one segment more than there are semicolons. -/
def segments : List Char → List (List Char)
  | [] => [[]]
  | c :: cs =>
    if c = ';' then [] :: segments cs
    else match segments cs with
      | s :: rest => (c :: s) :: rest
      | [] => [[c]]

/-- The blanks that may stand before a key. -/
def keyBlanks : List Char := [' ', '\t', '\n', '\r', '\x0b', '\x0c']

def trimKey (cs : List Char) : List Char := cs.dropWhile keyBlanks.contains

/-- Take the segments that belong to a value: an empty segment with another one after it is the
second half of a doubled semicolon. -/
def extend (value : List Char) : List (List Char) → List Char × List (List Char)
  | [] :: next :: rest => extend (value ++ ';' :: next) rest
  | rest => (value, rest)

theorem length_extend (value : List Char) (segments : List (List Char)) :
    (extend value segments).2.length ≤ segments.length := by
  fun_induction extend value segments with
  | case1 value next rest ih => simp at ih ⊢; omega
  | case2 => exact Nat.le_refl _

def databaseKey : List Char := ['d', 'b', 'n', 'a', 'm', 'e']

/-- Write the keys and values of the segments, one after another. -/
def collect (params : Params) : List (List Char) → Params
  | [] => params
  | segment :: rest =>
    match splitAt? '=' segment with
    | none => collect params rest
    | some (key, value) =>
      let key := trimKey key
      if key = databaseKey then
        collect (params.insert (String.ofList key) (String.ofList (extend value rest).1))
          (extend value rest).2
      else collect (params.insert (String.ofList key) (String.ofList value)) rest
termination_by segments => segments.length
decreasing_by
  · simp
  · have := length_extend value rest
    simp
    omega
  · simp

def truncate (dsn : String) : String := String.ofList (untilNul dsn.toList)

def splitDriver (dsn : String) : Option (String × String) :=
  (splitAt? ':' (untilNul dsn.toList)).map fun p => (String.ofList p.1, String.ofList p.2)

/-- The keys and values of the part after the driver name. -/
def parse (body : String) : Params := collect .empty (segments (untilNul body.toList))

end SqlBridge.Dsn
