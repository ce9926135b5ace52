import SqlBridge.Connection.State
import SqlBridge.Fetch.Call
import SqlBridge.Text.Quoted

/-! # Statements

A statement keeps the rows of its last run and hands them out one by one. Rows
are laid out when they are fetched, with the settings that the connection has
when the fetch begins. A row that cannot be laid out stays the current one.
-/

namespace SqlBridge

structure Statement where
  sql : String
  columns : Columns
  rows : List Row
  cursor : Nat
  changes : Nat
  mode : Option FetchMode
  error : LastError

/-- The columns under the names that are shown. -/
def Columns.shown (c : Columns) : Columns := ⟨c.names.map Text.Quoted.shownName, c.types⟩

structure ColumnDescription where
  index : Nat
  name : String
  type : Option String
deriving DecidableEq

namespace Statement

def ofSql (sql : String) (mode : Option FetchMode) : Statement :=
  ⟨sql, .empty, [], 0, 0, mode, .success⟩

def withResult (st : Statement) (result : RunResult) : Statement :=
  let columns := result.columns.shown
  { st with
    columns
    rows := result.rows.map fun r => ⟨columns, r.values⟩
    cursor := 0
    changes := result.changes }

def clear (st : Statement) : Statement := { st with rows := [], cursor := 0, changes := 0 }

/-- The row that is fetched next. -/
def current? (st : Statement) : Option Row := st.rows[st.cursor]?

def remaining (st : Statement) : Nat := st.rows.length - st.cursor

def next (st : Statement) : Statement := { st with cursor := st.cursor + 1 }

/-- The mode of a fetch: the one asked for, or the statement's, or the connection's default. -/
def fetchMode (st : Statement) (state : Connection.State) (asked : Option FetchMode) : FetchMode :=
  (asked.or st.mode).getD state.defaultMode

/-- Fetch the next row, with the settings of the given connection state. -/
def fetch (st : Statement) (state : Connection.State) (asked : Option FetchMode)
    (objects : ObjectStore) :
    Callout (Except Error (Option FetchedRow) × Statement × ObjectStore) :=
  match st.current? with
  | none => .done (.ok none, st, objects)
  | some row =>
    (layOut state.layoutSettings row (st.fetchMode state asked) objects).map fun
      | (.ok fetched, objects) => (.ok (some fetched), st.next, objects)
      | (.error e, objects) => (.error e, st, objects)

/-- Fetch one column of the next row; an index without a value does not move on. -/
def fetchColumn (st : Statement) (state : Connection.State) (i : Nat) : Option Value × Statement :=
  match st.current?.bind (·.get? i) with
  | none => (none, st)
  | some v => (some (Layout.present state.layoutSettings.stringifies v), st.next)

/-- Choose the mode for fetches that do not ask for one. -/
def setFetchMode (st : Statement) (state : Connection.State) (objects : ObjectStore)
    (style : FetchStyle) (args : List Argument) : Except Error Bool × Statement :=
  match StyledCall.setFetchMode.chooseMode state.classes objects (some style) args with
  | .ok mode => (.ok true, { st with mode })
  | .error e => (.error e, st)

def columnCount (st : Statement) : Nat := st.columns.count

def rowCount (st : Statement) : Nat := st.changes

def describeColumn (st : Statement) (i : Nat) : Option ColumnDescription :=
  (st.columns.name? i).map fun name => ⟨i, name, st.columns.type? i⟩

def errorCode (st : Statement) : String := st.error.sqlstate

end Statement
end SqlBridge
