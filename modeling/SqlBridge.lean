import SqlBridge.Binary64
import SqlBridge.Class.Callout
import SqlBridge.Class.Script
import SqlBridge.Class.Table
import SqlBridge.Connection
import SqlBridge.Connection.Attribute
import SqlBridge.Connection.ErrorMode
import SqlBridge.Connection.Options
import SqlBridge.Connection.State
import SqlBridge.Connection.Transaction
import SqlBridge.Connection.Warning
import SqlBridge.Decimal.Digits
import SqlBridge.Decimal.Integer
import SqlBridge.Decimal.Reader
import SqlBridge.Decimal.Significant
import SqlBridge.Dsn
import SqlBridge.Engine
import SqlBridge.Engine.Recording
import SqlBridge.Engine.Run
import SqlBridge.Engine.Storage
import SqlBridge.Error
import SqlBridge.Error.Last
import SqlBridge.Fetch.Call
import SqlBridge.Fetch.FetchedRow
import SqlBridge.Fetch.Key
import SqlBridge.Fetch.Layout
import SqlBridge.Fetch.Mode
import SqlBridge.Generation
import SqlBridge.Json
import SqlBridge.Json.Scan
import SqlBridge.Object
import SqlBridge.OrderedMap
import SqlBridge.Proofs.Class.Lookup
import SqlBridge.Proofs.Connection.AttributeWrites
import SqlBridge.Proofs.Connection.CallSequence
import SqlBridge.Proofs.Connection.CallsMade
import SqlBridge.Proofs.Connection.Changes
import SqlBridge.Proofs.Connection.Connecting
import SqlBridge.Proofs.Connection.ErrorMode
import SqlBridge.Proofs.Connection.LastError
import SqlBridge.Proofs.Connection.Operation
import SqlBridge.Proofs.Connection.Origin
import SqlBridge.Proofs.Connection.Refusal
import SqlBridge.Proofs.Connection.Settings
import SqlBridge.Proofs.Connection.Tracking
import SqlBridge.Proofs.Connection.Twins
import SqlBridge.Proofs.Decimal.Canonical
import SqlBridge.Proofs.Decimal.FloatText
import SqlBridge.Proofs.Decimal.IntegerText
import SqlBridge.Proofs.Decimal.LastPlace
import SqlBridge.Proofs.Decimal.Layout
import SqlBridge.Proofs.Decimal.NearestBinary
import SqlBridge.Proofs.Decimal.Reading
import SqlBridge.Proofs.Decimal.Reread
import SqlBridge.Proofs.Decimal.Rounding
import SqlBridge.Proofs.Dsn.Overlay
import SqlBridge.Proofs.Dsn.Written
import SqlBridge.Proofs.Engine.BoundValues
import SqlBridge.Proofs.Engine.Calls
import SqlBridge.Proofs.Engine.CallsMade
import SqlBridge.Proofs.Engine.Changes
import SqlBridge.Proofs.Engine.Conversation
import SqlBridge.Proofs.Engine.Course
import SqlBridge.Proofs.Engine.Execution
import SqlBridge.Proofs.Engine.FailedBinding
import SqlBridge.Proofs.Engine.Failure
import SqlBridge.Proofs.Engine.Rectangular
import SqlBridge.Proofs.Engine.StatementLoop
import SqlBridge.Proofs.Engine.Turn
import SqlBridge.Proofs.Fetch.Appended
import SqlBridge.Proofs.Fetch.Assigned
import SqlBridge.Proofs.Fetch.Assoc
import SqlBridge.Proofs.Fetch.ByName
import SqlBridge.Proofs.Fetch.Call
import SqlBridge.Proofs.Fetch.ChosenMode
import SqlBridge.Proofs.Fetch.EqualModes
import SqlBridge.Proofs.Fetch.Groups
import SqlBridge.Proofs.Fetch.Meaning
import SqlBridge.Proofs.Fetch.NameKeys
import SqlBridge.Proofs.Fetch.Numbering
import SqlBridge.Proofs.Fetch.Positions
import SqlBridge.Proofs.Fetch.Rendered
import SqlBridge.Proofs.Fetch.Rules
import SqlBridge.Proofs.Fetch.Stringified
import SqlBridge.Proofs.Row.TypedAccess
import SqlBridge.Proofs.Session.AcceptedMode
import SqlBridge.Proofs.Session.ColumnFetch
import SqlBridge.Proofs.Session.Command
import SqlBridge.Proofs.Session.CommandRecords
import SqlBridge.Proofs.Session.Construction
import SqlBridge.Proofs.Session.Contents
import SqlBridge.Proofs.Session.Course
import SqlBridge.Proofs.Session.Cursor
import SqlBridge.Proofs.Session.Events
import SqlBridge.Proofs.Session.EveryWay
import SqlBridge.Proofs.Session.Fetch
import SqlBridge.Proofs.Session.IntoTarget
import SqlBridge.Proofs.Session.LastError
import SqlBridge.Proofs.Session.Lifetime
import SqlBridge.Proofs.Session.Origins
import SqlBridge.Proofs.Session.Ownership
import SqlBridge.Proofs.Session.Reading
import SqlBridge.Proofs.Session.Records
import SqlBridge.Proofs.Session.Rectangular
import SqlBridge.Proofs.Session.Refusal
import SqlBridge.Proofs.Session.SmallSteps
import SqlBridge.Proofs.Session.StartingSettings
import SqlBridge.Proofs.Session.Twins
import SqlBridge.Proofs.Text.Doubled
import SqlBridge.Proofs.Text.LetterCase
import SqlBridge.Proofs.Text.LiteralNames
import SqlBridge.Proofs.Text.ReadBytes
import SqlBridge.Row
import SqlBridge.Row.Convert
import SqlBridge.Session
import SqlBridge.Statement
import SqlBridge.Text.Ascii
import SqlBridge.Text.Blank
import SqlBridge.Text.Quoted
import SqlBridge.Text.Utf8
import SqlBridge.Value
import SqlBridge.Value.Tagged
