import SqlBridge.Error

/-! # Warnings

What is logged at warning level: attributes that could not be set, failures
under the warning error mode, and transactions rolled back when a connection is
closed.
-/

namespace SqlBridge

inductive Warning where
  | attributeRejected (code : Int) (readOnly : Bool)
  | failed (method : Method) (sqlstate : String) (error : String)
  | rollingBack
  | rollbackFailed (error : String)
deriving DecidableEq

def Warning.message : Warning → String
  | attributeRejected _ _ => "attribute not set"
  | failed method _ error => method.label ++ ": " ++ error
  | rollingBack => "rolling back unfinished transaction"
  | rollbackFailed _ => "rollback on close failed"

end SqlBridge
