-- SUMMARY: What the probe of column types sees of a connection, and why a probe fails.
import SqlDialects.Dialect.Basic

/-!
# Connections

A connection answers statements. The probe sees whether a cursor opens, the
columns of a result, the rows of a catalog query, the names it knows for type
numbers, and which statement fails.
-/

namespace SqlDialects

/-- Names of types by number; of several names of one number the last counts. -/
abbrev TypeNames := List (Int × String)

def TypeNames.name? (names : TypeNames) (oid : Int) : Option String := names.reverse.lookup oid

/-- What a connection tells about its server. -/
structure ServerInfo where
  version : Value
  user : Value
  host : Value
  portNumber : Value
  database : Value

structure Connection where
  /-- Whether a cursor can be opened. -/
  opens : Bool := true
  /-- The columns of a result; `none` for a statement without one. -/
  columns : Option (List (String × Int)) := none
  /-- The rows of the catalog query. -/
  catalog : TypeNames := []
  /-- The number of the statement that fails, from one on. -/
  failing : Option Nat := none
  /-- The names the connection has of its own. -/
  types : Option TypeNames := none

/-- Why a probe fails. -/
inductive ProbeError where
  | notProbing (backend : String)
  | noDriver
  | readFailed (table : String)
  | unknownTypes (table : String) (oids : List Int)
  deriving DecidableEq

namespace ProbeError

def message : ProbeError → String
  | .notProbing backend => backend ++ " does not support column type discovery."
  | .noDriver => "psycopg is required to use PostgresAdapter."
  | .readFailed table => "Failed to read column types for '" ++ table ++ "'."
  | .unknownTypes table oids =>
    "Unknown type OIDs for '" ++ table ++ "': " ++ (Value.list (oids.map .whole)).display

/-- The probe was not set up rather than refused by the server. -/
def isConfiguration : ProbeError → Bool
  | .notProbing _ => true
  | .noDriver => true
  | _ => false

/-- The error of a driver stands behind this one. -/
def isFromDriver : ProbeError → Bool
  | .readFailed _ => true
  | _ => false

end ProbeError

-- ---------------------------------------------------------------------------
-- Description
-- ---------------------------------------------------------------------------

/-- A server's version: two parts from the tenth on, three before it. -/
def versionText (version : Value) : Except Error String :=
  let parts (n : Int) : Except Error String := do
    let major ← (Value.whole (n.fdiv 10000)).asBareText
    if 100000 ≤ n then return major ++ "." ++ toString (n.fmod 10000)
    return major ++ "." ++ toString ((n.fdiv 100).fmod 100) ++ "." ++ toString (n.fmod 100)
  match version with
  | .scalar (.number (.whole n)) => parts n
  | .scalar (.bool b) => parts (if b then 1 else 0)
  | v => v.asBareText

/-- One line on a connection. -/
def ServerInfo.describe (info : ServerInfo) : Except Error String := do
  let host ← if info.host.isTruthy then info.host.asBareText else .ok "localhost"
  return "postgres " ++ (← versionText info.version) ++ " [" ++ (← info.user.asBareText) ++ "@" ++
    host ++ ":" ++ (← info.portNumber.asBareText) ++ "/" ++ (← info.database.asBareText) ++ "]"

end SqlDialects
