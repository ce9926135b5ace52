import SqlBridge.Proofs.Connection.Operation
import SqlBridge.Session

/-! # The commands of a session

Everything that a caller can do to the connections and statements of a session,
as data. A run is a list of commands performed one after another. Commands name
what they are about, and reply nothing where the name stands for nothing.
-/

namespace SqlBridge.Session
variable {σ : Type}

inductive Command where
  | connect (name dsn : String) (options : ConnectionOptions)
  | disconnect (name : String)
  | free (name : String)
  /-- An operation of a connection; a statement that it makes is kept under the given name. -/
  | operate (connection : String) (op : Connection.Operation) (keepAs : String)
  | setAttribute (connection : String) (attr : Attribute) (v : AttributeValue)
  | getAttribute (connection : String) (attr : Attribute)
  | lastInsertId (connection : String)
  | inTransaction (connection : String)
  | errorInfo (connection : String)
  | errorCode (connection : String)
  | execute (name : String) (params : List Value)
  | fetch (name : String) (mode : Option FetchMode)
  | fetchAll (name : String) (mode : Option FetchMode)
  | fetchColumn (name : String) (i : Nat)
  | setFetchMode (name : String) (style : FetchStyle) (args : List Argument)

namespace Command

abbrev Reply : Command → Type
  | connect _ _ _ => Except Error Dsn.Params
  | disconnect _ | free _ => Bool
  | operate _ op _ => Option (Except Error op.Reply)
  | setAttribute _ _ _ | inTransaction _ => Option Bool
  | getAttribute _ _ => Option (Option AttributeValue)
  | lastInsertId _ => Option Int64
  | errorInfo _ => Option LastError
  | errorCode _ => Option String
  | execute _ _ | setFetchMode _ _ _ => Option (Except Error Bool)
  | fetch _ _ => Option (Except Error (Option FetchedRow))
  | fetchAll _ _ => Option (Except Error (List FetchedRow))
  | fetchColumn _ _ => Option (Option Value)

def performOperation (eng : Engine σ) (connection keepAs : String) :
    (op : Connection.Operation) → StateM (Session σ) (Option (Except Error op.Reply))
  | .exec sql => onConnection connection (Connection.exec eng sql)
  | .query sql => makeStatement eng connection keepAs (Connection.query eng sql)
  | .queryMode sql mode => makeStatement eng connection keepAs (Connection.queryMode eng sql mode)
  | .queryStyle objects sql style args =>
    makeStatement eng connection keepAs (Connection.queryStyle eng objects sql style args)
  | .prepare sql => makeStatement eng connection keepAs (Connection.prepare eng sql)
  | .begin => onConnection connection (Connection.begin eng)
  | .commit => onConnection connection (Connection.commit eng)
  | .rollBack => onConnection connection (Connection.rollBack eng)

def perform (eng : Engine σ) : (command : Command) → StateM (Session σ) command.Reply
  | connect name dsn options => Session.connect eng name dsn options
  | disconnect name => Session.disconnect eng name
  | free name => Session.free eng name
  | operate connection op keepAs => performOperation eng connection keepAs op
  | setAttribute connection attr v => onConnection connection (Connection.setAttribute attr v)
  | getAttribute connection attr => onConnection connection (Connection.getAttribute eng attr)
  | lastInsertId connection => onConnection connection (Connection.lastInsertId eng)
  | inTransaction connection => onConnection connection Connection.inTransaction
  | errorInfo connection => onConnection connection Connection.errorInfo
  | errorCode connection => onConnection connection Connection.errorCode
  | execute name params => Session.execute eng name params
  | fetch name mode => Session.fetch eng name mode
  | fetchAll name mode => Session.fetchAll eng name mode
  | fetchColumn name i => Session.fetchColumn name i
  | setFetchMode name style args => Session.setFetchMode name style args

end Command

def performAll (eng : Engine σ) : List Command → StateM (Session σ) Unit
  | [] => return
  | command :: rest => do
    let _ ← command.perform eng
    performAll eng rest

end SqlBridge.Session
