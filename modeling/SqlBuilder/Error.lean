import SqlBuilder.Dialect
import SqlBuilder.Value
/-!
What can go wrong, as causes, and the one text of each cause.
-/
namespace SqlBuilder

-- A value that is not of the type a reader asked for.
structure Mismatch where
  expected : String
  found : String
  deriving DecidableEq

namespace Mismatch

-- Strings are shown, other values are named by their kind.
def ofValue (expected : String) : Value → Mismatch
  | .string s => ⟨expected, "string `" ++ s ++ "`"⟩
  | v => ⟨expected, v.kind⟩

def message (m : Mismatch) : String := "expected " ++ m.expected ++ ", found " ++ m.found

end Mismatch

-- The statements that some dialects do not have.
inductive Feature where
  | replace
  | severalDefaultRows
  deriving DecidableEq

def Feature.name : Feature → String
  | replace => "replace into"
  | severalDefaultRows => "inserting several rows of default values"

inductive Error where
  | noResult
  | noExecutor
  | nestedTransaction
  | transactionClosed
  | unsupported (feature : Feature) (dialect : Dialect)
  | unknownSelection (name : String)
  | emptyInsert
  | emptyUpdate
  | compile (message : String)
  | decode (column message : String)
  | driver (message : String)
  | config (message : String)
  deriving DecidableEq

namespace Error

def message : Error → String
  | noResult => "no result"
  | noExecutor => "no executor attached to this handle"
  | nestedTransaction => "a transaction is already running on this handle"
  | transactionClosed => "transaction is already committed or rolled back"
  | unsupported feature dialect => feature.name ++ " is not supported by " ++ dialect.name
  | unknownSelection name => "unknown selection `" ++ name ++ "`"
  | emptyInsert => "insert query has no rows"
  | emptyUpdate => "update query sets no columns"
  | compile message => "compile error: " ++ message
  | decode column message => "decode error on column '" ++ column ++ "': " ++ message
  | driver message => "driver error: " ++ message
  | config message => "configuration error: " ++ message

def isNoResult (e : Error) : Bool := e = noResult

end Error

end SqlBuilder
