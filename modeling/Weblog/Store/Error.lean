import Weblog.Sql.Schema
import Weblog.Store.ResultSet

/-!
# Weblog.Store.Error

What goes wrong between records and the database.
-/

namespace Weblog

/-- Why a record could not be read or written. The reason why a value has not the shape of an
entity is not shown. -/
inductive StoreError where
  | schema (e : SchemaError)
  | missingAttribute (attr : String)
  | unknownField (model field : String)
  | invalidLimit (text : String)
  | undecodable
  | unsupportedColumn (column type : String)
  | database (e : DbError)
  deriving DecidableEq, Repr

def StoreError.message : StoreError → String
  | .schema e => e.message
  | .missingAttribute attr => "record has no attribute '" ++ attr ++ "'"
  | .unknownField model field => "model " ++ model ++ " has no field '" ++ field ++ "'"
  | .invalidLimit text => "invalid limit value: " ++ text
  | .undecodable => "decode: *"
  | .unsupportedColumn column type =>
    "cannot decode column '" ++ column ++ "' of type " ++ type
  | .database e => "database: " ++ e.message

end Weblog
