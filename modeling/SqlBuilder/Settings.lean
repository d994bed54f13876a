import SqlBuilder.Error
import SqlBuilder.Text.Blank
import SqlBuilder.Text.Decimal
/-!
Connection settings and how they are read from named texts such as environment variables.
-/
namespace SqlBuilder

structure Settings where
  url : String
  maxConnections : UInt32 := 10
  minConnections : UInt32 := 0
  -- how long to wait for a connection, in seconds
  acquireTimeout : UInt64 := 30
  deriving DecidableEq

namespace Settings

open Text

def urlKey : String := "DATABASE_URL"

def maxKey : String := "STRATA_MAX_CONNECTIONS"

def minKey : String := "STRATA_MIN_CONNECTIONS"

def timeoutKey : String := "STRATA_ACQUIRE_TIMEOUT_SECS"

-- Digits with an optional plus sign in front and white space around them, for a number below `bound`.
def number? (bound : Nat) (s : String) : Option Nat := do
  let n ← natural? (match trim s.toList with
    | '+' :: cs => cs
    | cs => cs)
  if n < bound then some n else none

-- The number under a key, the default if there is none.
def numberAt (lookup : String → Option String) (key : String) (bound default : Nat) :
    Except Error Nat :=
  match lookup key with
  | none => .ok default
  | some s =>
    match number? bound s with
    | some n => .ok n
    | none => .error (.config (key ++ " has an invalid value `" ++ s ++ "`"))

def urlAt (lookup : String → Option String) : Except Error String :=
  match lookup urlKey with
  | some s => if (trim s.toList).isEmpty then .error missing else .ok s
  | none => .error missing
where
  missing : Error := .config (urlKey ++ " is not set")

def ofLookup (lookup : String → Option String) : Except Error Settings := do
  let url ← urlAt lookup
  let base : Settings := { url }
  let max ← numberAt lookup maxKey UInt32.size base.maxConnections.toNat
  let min ← numberAt lookup minKey UInt32.size base.minConnections.toNat
  let timeout ← numberAt lookup timeoutKey UInt64.size base.acquireTimeout.toNat
  if max < min then
    throw (.config (minKey ++ " (" ++ decimal min ++ ") is greater than " ++ maxKey
      ++ " (" ++ decimal max ++ ")"))
  return ⟨url, .ofNat max, .ofNat min, .ofNat timeout⟩

end Settings

end SqlBuilder
