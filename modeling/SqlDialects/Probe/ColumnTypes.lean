-- SUMMARY: Finding the type names of a table's columns over a connection.
import SqlDialects.Dialect.Identifier
import SqlDialects.NameTable
import SqlDialects.Options
import SqlDialects.Probe.Session

/-!
# Column types

The probe runs a statement without rows and reads the columns of its result. Type
numbers that the driver or the connection has no name for are looked up in the
catalog by a second statement. Both run under one correlation id, a cursor that
is opened is closed exactly once, and afterwards the id that was bound before is
bound again.
-/

namespace SqlDialects

/-- The statement that names types by number. -/
def typeNameSql : String := "SELECT oid, typname FROM pg_catalog.pg_type WHERE oid = ANY(%s)"

/-- The statement whose result has a table's columns and no rows. -/
def emptySelect (table : String) : String :=
  "SELECT * FROM " ++ Identifier.table table ++ " LIMIT 0"

/-- What a probe goes by. -/
structure Prober where
  dialect : Dialect
  options : Options := {}
  /-- The names the driver knows; `none` where no driver is installed. -/
  driver : Option TypeNames := some []

/-- Type numbers without a name, sorted, each once. -/
def namelessTypes (names : TypeNames) (columns : List (String × Int)) : List Int :=
  ((columns.map (·.2)).filter fun oid => (names.name? oid).isNone).eraseDups.mergeSort (· ≤ ·)

/-- The columns with the names of their types; of columns of one name the last counts. -/
def columnTypes (names : TypeNames) (columns : List (String × Int)) : List (String × String) :=
  NameTable.ofList (columns.map fun (column, oid) => (column, (names.name? oid).getD ""))

namespace Prober

def threshold (p : Prober) : Number := (p.options.slowQueryMs.toNumber?).getD (.whole 0)

/-- The names known without asking the server. -/
def knownNames (driver : TypeNames) (c : Connection) : TypeNames := c.types.getD driver

/-- Names of all types of some columns, as far as the server knows them. -/
def lookUp (p : Prober) (s : ProbeSession) (c : Connection) (known : TypeNames)
    (columns : List (String × Int)) : ProbeSession × Option TypeNames :=
  match namelessTypes known columns with
  | [] => (s, some known)
  | missing =>
    let oids := Value.list (missing.map .whole)
    let s := s.log (.debug ProbeSession.part
      ("Resolving " ++ Nat.repr missing.length ++ " type OIDs through pg_type"))
    let (s, succeeded) :=
      s.timed p.threshold c "postgres.type_names" typeNameSql (.tuple [oids]) oids
    (s, if succeeded then some (known ++ c.catalog) else none)

/-- The columns of a table and names of their types, read with an open cursor. -/
def read (p : Prober) (s : ProbeSession) (c : Connection) (driver : TypeNames) (table : String) :
    ProbeSession × Option (List (String × Int) × TypeNames) :=
  let (s, succeeded) :=
    s.timed p.threshold c "postgres.column_types" (emptySelect table) .null .null
  if succeeded then
    let columns := c.columns.getD []
    let (s, names) := p.lookUp s c (knownNames driver c) columns
    (s, names.map fun names => (columns, names))
  else (s, none)

/-- Open a cursor, read with it, and close it again. -/
def probe (p : Prober) (s : ProbeSession) (c : Connection) (driver : TypeNames) (table : String) :
    ProbeSession × Option (List (String × Int) × TypeNames) :=
  if c.opens then
    let (s, found) := p.read (s.emit .opened) c driver table
    (s.emit .closed, found)
  else (s, none)

/-- The type names of a table's columns. -/
def columnTypes (p : Prober) (s : ProbeSession) (c : Connection) (table : String) :
    ProbeSession × Except ProbeError (List (String × String)) :=
  match p.driver with
  | none => (s, .error .noDriver)
  | some driver =>
    let before := s.journal
    let (s, found) := p.probe { s with journal := (before.enter none).1 } c driver table
    let s := { s with journal := s.journal.leave before }
    match found with
    | none => (s, .error (.readFailed table))
    | some (columns, names) =>
      match namelessTypes names columns with
      | [] => (s, .ok (SqlDialects.columnTypes names columns))
      | unresolved => (s, .error (.unknownTypes table unresolved))

/-- A dialect that can probe. -/
def check (p : Prober) : Except ProbeError Unit :=
  if p.dialect.capabilities.columnTypeProbe then .ok ()
  else .error (.notProbing p.dialect.displayName)

end Prober

end SqlDialects
