import SqlBridge.Connection.ErrorMode
import SqlBridge.Fetch.Mode

/-! # Attributes

The attributes of a connection with their numbers, and the values that are read
from them and written to them. Some attributes can only be read.
-/

namespace SqlBridge

inductive Attribute where
  | errorMode
  | serverVersion
  | clientVersion
  | driverName
  | stringifyFetches
  | defaultFetchMode
  | other (code : Int)
deriving DecidableEq

namespace Attribute

def ofCode (code : Int) : Attribute :=
  if code = 3 then errorMode
  else if code = 4 then serverVersion
  else if code = 5 then clientVersion
  else if code = 16 then driverName
  else if code = 17 then stringifyFetches
  else if code = 19 then defaultFetchMode
  else other code

def code : Attribute → Int
  | errorMode => 3
  | serverVersion => 4
  | clientVersion => 5
  | driverName => 16
  | stringifyFetches => 17
  | defaultFetchMode => 19
  | other code => code

def label : Attribute → String
  | errorMode => "ErrorMode"
  | serverVersion => "ServerVersion"
  | clientVersion => "ClientVersion"
  | driverName => "DriverName"
  | stringifyFetches => "StringifyFetches"
  | defaultFetchMode => "DefaultFetchMode"
  | other code => "Other(" ++ Decimal.intText code ++ ")"

def isReadOnly : Attribute → Bool
  | serverVersion | clientVersion | driverName => true
  | _ => false

end Attribute

inductive AttributeValue where
  | int (i : Int)
  | bool (b : Bool)
  | text (s : String)
  | errorMode (m : ErrorMode)
  | fetchMode (m : FetchMode)
deriving DecidableEq

end SqlBridge
