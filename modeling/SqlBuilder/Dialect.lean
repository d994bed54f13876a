import SqlBuilder.Text.Decimal
/-!
The database dialects and what they spell differently as single words.
-/
namespace SqlBuilder

-- A family of databases with one spelling of SQL.
inductive Dialect where
  | postgres
  | mysql
  | sqlite
  deriving DecidableEq

namespace Dialect

def name : Dialect → String
  | postgres => "postgres"
  | mysql => "mysql"
  | sqlite => "sqlite"

-- The dialect as shown when a handle is inspected.
def label : Dialect → String
  | postgres => "Postgres"
  | mysql => "MySql"
  | sqlite => "Sqlite"

-- The character that opens and closes a quoted identifier.
def quote : Dialect → Char
  | postgres => '"'
  | mysql => '`'
  | sqlite => '"'

-- What stands for the parameter with number `n`, counted from 1.
def placeholder (d : Dialect) (n : Nat) : String :=
  match d with
  | postgres => "$" ++ Text.decimal n
  | mysql => "?"
  | sqlite => "?" ++ Text.decimal n

-- Whether the dialect has a `replace into` statement.
def hasReplace : Dialect → Bool
  | postgres => false
  | mysql => true
  | sqlite => true

-- The word that stands for a column's default in a row of values. Sqlite has none and takes null.
def filler : Dialect → String
  | postgres => "default"
  | mysql => "default"
  | sqlite => "null"

-- The statement that opens a transaction.
def beginStatement : Dialect → String
  | postgres => "begin"
  | mysql => "start transaction"
  | sqlite => "begin"

-- The call that yields a random number.
def randomCall : Dialect → String
  | postgres => "random()"
  | mysql => "rand()"
  | sqlite => "random()"

-- A scheme is compared without regard to the case of ASCII letters.
def ofScheme? (scheme : String) : Option Dialect :=
  match scheme.toLower with
  | "postgres" => some postgres
  | "postgresql" => some postgres
  | "mysql" => some mysql
  | "mariadb" => some mysql
  | "sqlite" => some sqlite
  | _ => none

-- The dialect of a connection url is named by the text before its first colon.
def ofUrl? (url : String) : Option Dialect :=
  match url.toList.span (· ≠ ':') with
  | (_, []) => none
  | (scheme, _) => ofScheme? (String.ofList scheme)

end Dialect

end SqlBuilder
