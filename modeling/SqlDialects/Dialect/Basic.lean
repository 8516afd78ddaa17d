-- SUMMARY: Dialects: what a backend can do, how row statements are built on it, and looking one up by name.
import SqlDialects.NameTable
import SqlDialects.Text.Characters
import SqlDialects.Text.Casing
import SqlDialects.Value.Parts

/-!
# Dialects

A dialect is a backend, the capabilities it is used with, and the methods by
which row statements are built when a call names none. The methods are checked
when a dialect is made.
-/

namespace SqlDialects

inductive Backend where
  | ansi
  | postgres
  deriving DecidableEq

/-- What a backend can do. -/
structure Capabilities where
  returning : Bool := false
  onConflict : Bool := false
  windowClause : Bool := false
  tableAliasWithAs : Bool := true
  columnTypeProbe : Bool := false
  explainFormats : List String := ["text"]
  deriving DecidableEq

/-- A capability by its name. A flag is set by any value that counts as true. -/
def Capabilities.set (c : Capabilities) (name : String) (v : Value) : Except Error Capabilities :=
  match name with
  | "supports_returning" => .ok { c with returning := v.isTruthy }
  | "supports_on_conflict" => .ok { c with onConflict := v.isTruthy }
  | "supports_window_clause" => .ok { c with windowClause := v.isTruthy }
  | "supports_table_alias_with_as" => .ok { c with tableAliasWithAs := v.isTruthy }
  | "column_type_probe" => .ok { c with columnTypeProbe := v.isTruthy }
  | "explain_formats" => do
    let formats ← (← v.items).mapM Value.asText
    return { c with explainFormats := formats }
  | _ => .error (.lapse .argumentShape)

/-- How a row statement treats rows that are there already. -/
inductive Method where
  | onConflict
  | whereNotExists
  | cteUpdate
  deriving DecidableEq

inductive RowStatement where
  | insert
  | upsert
  deriving DecidableEq

namespace Method

def text : Method → String
  | .onConflict => "on_conflict"
  | .whereNotExists => "where_not_exists"
  | .cteUpdate => "cte_update"

/-- A method that needs native conflict syntax. -/
def isNative : Method → Bool
  | .onConflict => true
  | _ => false

end Method

/-- The methods a statement can be built by. -/
def RowStatement.methods : RowStatement → List Method
  | .insert => [.onConflict, .whereNotExists]
  | .upsert => [.onConflict, .cteUpdate]

/-- The statement that a value names. -/
def RowStatement.ofValue (v : Value) : Except Error RowStatement := do
  if v.equalsText "insert" then return .insert
  if v.equalsText "upsert" then return .upsert
  throw (.unknownStatement (← v.asBareText))

namespace Backend

/-- All backends, in the order of their names. -/
def all : List Backend := [.ansi, .postgres]

def text : Backend → String
  | .ansi => "ansi"
  | .postgres => "postgresql"

def displayName : Backend → String
  | .ansi => "ANSI SQL"
  | .postgres => "PostgreSQL"

def typeName : Backend → String
  | .ansi => "AnsiDialect"
  | .postgres => "PostgresDialect"

def capabilities : Backend → Capabilities
  | .ansi => {}
  | .postgres =>
    { returning := true
      onConflict := true
      windowClause := true
      columnTypeProbe := true
      explainFormats := ["text", "json", "yaml", "xml"] }

def defaultMethod : Backend → RowStatement → Method
  | .ansi, .insert => .whereNotExists
  | .ansi, .upsert => .cteUpdate
  | .postgres, _ => .onConflict

/-- Other names of a backend. -/
def aliases : List (String × Backend) := [("postgres", .postgres), ("pg", .postgres)]

/-- Look a backend up by a name, in any case and between white space. -/
def ofName (name : Value) : Except Error Backend := do
  let key := Text.toLower (Text.strip (← name.asBareText))
  match aliases.lookup key with
  | some backend => return backend
  | none =>
    match all.find? (·.text == key) with
    | some backend => return backend
    | none => throw (.configuration (.unknownDialect key (all.map text)))

end Backend

/-- A backend as it is used. -/
structure Dialect where
  backend : Backend
  insertMethod : Method
  upsertMethod : Method
  capabilities : Capabilities
  deriving DecidableEq

namespace Dialect

def displayName (d : Dialect) : String := d.backend.displayName

/-- The method a statement is built by when none is named. -/
def defaultMethod (d : Dialect) : RowStatement → Method
  | .insert => d.insertMethod
  | .upsert => d.upsertMethod

/-- A method is allowed for a statement, and a native one needs the capability. -/
def checkMethod (backend : Backend) (capabilities : Capabilities) (statement : RowStatement)
    (named : Value) : Except Error Method :=
  let refused := Error.invalidArgument "method"
    (.texts (statement.methods.map Method.text)) .notAllowed
  match named with
  | .scalar (.text s) =>
    match statement.methods.find? (·.text == s) with
    | none => .error refused
    | some method =>
      if method.isNative && !capabilities.onConflict then
        .error (.configuration (.nativeMethod method.text backend.displayName))
      else .ok method
  | _ => .error refused

/-- The method of a statement: the one named, else the dialect's own. -/
def resolveMethod (d : Dialect) (statement : RowStatement) (named : Value) :
    Except Error Method :=
  checkMethod d.backend d.capabilities statement
    (match named with
     | .scalar .null => .text (d.defaultMethod statement).text
     | named => named)

/-- Make a dialect; a method that is missing or empty is the backend's own. -/
def make (backend : Backend) (insertMethod upsertMethod : Value) : Except Error Dialect := do
  let chosen (statement : RowStatement) (named : Value) : Value :=
    if named.isTruthy then named else .text (backend.defaultMethod statement).text
  let capabilities := backend.capabilities
  let insert ← checkMethod backend capabilities .insert (chosen .insert insertMethod)
  let upsert ← checkMethod backend capabilities .upsert (chosen .upsert upsertMethod)
  return ⟨backend, insert, upsert, capabilities⟩

/-- A dialect with its backend's own methods. -/
def standard (backend : Backend) : Dialect :=
  ⟨backend, backend.defaultMethod .insert, backend.defaultMethod .upsert, backend.capabilities⟩

/-- Make a dialect from named settings. -/
def ofSettings (backend : Backend) (settings : List (String × Value)) : Except Error Dialect :=
  let settings := NameTable.ofList settings
  if settings.any fun s => s.1 != "insert_method" && s.1 != "upsert_method" then
    .error (.lapse .argumentShape)
  else
    make backend ((settings.lookup "insert_method").getD .null)
      ((settings.lookup "upsert_method").getD .null)

def display (d : Dialect) : String :=
  fieldsText d.backend.typeName
    [("insert_method", Text.quoted d.insertMethod.text),
     ("upsert_method", Text.quoted d.upsertMethod.text)]

end Dialect

end SqlDialects
