-- SUMMARY: Statements on rows: insert with conflict handling, upsert, and explain.
import SqlDialects.Journal
import SqlDialects.Statement.Clause
import SqlDialects.Text.Characters

/-!
# Row statements

An insert copies the rows of a source; an upsert updates the rows that match a
key and inserts the others. Both have a native form, built on `ON CONFLICT`, and
a general one for dialects without it: an insert then asks that no row with the
key exists, and an upsert updates in a common table expression first.
-/

namespace SqlDialects

/-- The name the source of a statement goes by. -/
def sourceAlias : String := "...y"

/-- The name the updated rows go by. -/
def updatedAlias : String := "updated"

/-- What happens to rows whose key is there already. -/
inductive ConflictAction where
  | error
  | ignore
  deriving DecidableEq

namespace ConflictAction

def text : ConflictAction → String
  | .error => "error"
  | .ignore => "ignore"

def all : List ConflictAction := [.error, .ignore]

/-- The action a value names. A condition made of a column or a call counts as
    naming the second. -/
def ofValue (v : Value) : Except Error ConflictAction :=
  if v.equalsText ignore.text then .ok .ignore
  else if v.equalsText error.text then .ok .error
  else .error (.invalidArgument "conflict" (.texts (all.map text)) .notAllowed)

end ConflictAction

structure InsertRequest where
  table : String
  /-- The SELECT statement whose rows are inserted. -/
  source : String
  columns : Value
  key : Value := .null
  conflict : Value := .text "error"
  returning : Value := .null
  method : Value := .null

structure UpsertRequest where
  table : String
  source : String
  key : Value
  updated : Value
  returning : Value := .null
  method : Value := .null

-- ---------------------------------------------------------------------------
-- Parts
-- ---------------------------------------------------------------------------

def insertInto (table : String) (columns : List String) : Clause where
  keyword := "INSERT INTO " ++ table
  items := columnList columns
  parens := true

def fromSource (d : Dialect) (source : String) : Clause where
  keyword := "FROM"
  items := [.raw (tableAlias d source sourceAlias)]

/-- Expressions with a connector between them; there has to be one at least. -/
def Expr.conjunction (connector : String) (es : List Expr) : Except Error Expr :=
  match Expr.conjunction? connector es with
  | some e => .ok e
  | none => .error .emptyConjunction

/-- Equality of the key's columns on two sides. -/
def keyMatch (left right : String) (key : List String) : Except Error Expr :=
  let equal (column : String) : Expr :=
    .binary "=" (qualified left column) (qualified right column)
  Expr.conjunction "AND" (key.map equal)

/-- A subquery on lines of its own, indented and in parentheses. -/
def blockText (subquery : String) : String := "(\n" ++ Text.indent subquery ++ "\n)"

/-- No row of a target has the source's key. -/
def whereNotExists (d : Dialect) (target : String) (key : List String) : Except Error Clause := do
  let condition ← keyMatch target (Identifier.escaped sourceAlias) key
  let subquery ← Clause.compose d
    [{ keyword := "SELECT", items := [.raw "1"] },
     { keyword := "FROM", items := [.raw target] },
     { keyword := "WHERE", items := [condition] }]
  return { keyword := "WHERE NOT EXISTS", items := [.raw (blockText subquery)] }

/-- Every updated column with its namesake behind a qualifier. -/
def assignFrom (qualifier : String) (columns : List String) : List (String × Value) :=
  columns.map fun column => (column, .sql (qualified qualifier column))

/-- The common table expression that updates the rows with a known key. -/
def updatedRows (d : Dialect) (table source : String) (key updated : List String) :
    Except Error Clause := do
  let rows := Identifier.escaped sourceAlias
  let condition ← keyMatch rows table key
  let update ← Clause.compose d
    [{ keyword := "UPDATE " ++ table },
     setClause (assignFrom rows updated),
     fromSource d source,
     { keyword := "WHERE", items := [condition] },
     { keyword := "RETURNING", items := [.raw (table ++ ".*")] }]
  return { keyword := "WITH"
           items := [.raw (Identifier.escaped updatedAlias ++ " AS " ++ blockText update)] }

-- ---------------------------------------------------------------------------
-- Statements
-- ---------------------------------------------------------------------------

/-- What is said of rows whose key is there already. -/
def conflictClauses (d : Dialect) (table : String) (method : Method) (key : List String) :
    ConflictAction → Except Error (List Clause)
  | .error => .ok []
  | .ignore =>
    if method = .onConflict then .ok [conflictTarget key, { keyword := "DO NOTHING" }]
    else do
      let clause ← whereNotExists d table key
      return [clause]

/-- The key of an insert: the columns listed, and at least one of them where
    conflicts are ignored. -/
def insertKey (r : InsertRequest) (conflict : ConflictAction) : Except Error (List Value) := do
  let key ← listedColumns r.key
  match conflict with
  | .error => return key
  | .ignore => requiredColumns "by" (.tuple key)

/-- The names of a key's columns that a statement writes; without conflict handling
    it writes none. -/
def handledNames (key : List Value) : ConflictAction → Except Error (List String)
  | .error => .ok []
  | .ignore => Value.names key

/-- Insert the rows of a source. The general form writes the key's names before it is
    known whether columns can be returned, and the native one afterwards. -/
def insertStatement (d : Dialect) (r : InsertRequest) : Except Error (String × LogRecord) := do
  let conflict ← ConflictAction.ofValue r.conflict
  let method ← d.resolveMethod .insert r.method
  let columns ← requiredColumns "insert_cols" r.columns
  let key ← insertKey r conflict
  let table := Identifier.table r.table
  if method ≠ .onConflict then discard (handledNames key conflict)
  let returning ← returningClause d r.table r.returning
  let columns ← Value.names columns
  let handling ← conflictClauses d table method (← handledNames key conflict) conflict
  let text ← Clause.compose d
    ([insertInto table columns, { keyword := "SELECT", items := [.star none] },
      fromSource d r.source] ++ handling ++ returning.toList)
  return (text, .debug "query.rows"
    ("Built insert into " ++ r.table ++ " using " ++ method.text ++
      " (conflict=" ++ r.conflict.bareText ++ ")"))

/-- Two columns are the same one: they are equal and neither holds an expression of
    the caller's side, which is the same as itself only. -/
def isSameColumn (x y : Value) : Except Error Bool :=
  if x.isPlain && y.isPlain then x.same y else .ok false

/-- The columns of the key that are also updated, as names, sorted, each once. -/
def overlap (key updated : List Value) : Except Error (List String) := do
  if !(key ++ updated).all (·.isKey) then throw (.lapse .argumentShape)
  let common ← key.filterM fun column => anyOf (isSameColumn column) updated
  return (← Value.names common).eraseDups.mergeSort (· ≤ ·)

/-- The clauses of an upsert before its returning. -/
def upsertClauses (d : Dialect) (table source : String) (method : Method)
    (key updated : List String) : Except Error (List Clause) :=
  let columns := key ++ updated
  let select : Clause := { keyword := "SELECT", items := columnList columns }
  if method = .onConflict then
    .ok [insertInto table columns, select, fromSource d source,
      { keyword := "WHERE", items := [.keyword "true"] },
      conflictTarget key, { keyword := "DO UPDATE" },
      setClause (assignFrom "excluded" updated)]
  else do
    let update ← updatedRows d table source key updated
    let remaining ← whereNotExists d (Identifier.escaped updatedAlias) key
    return [update, insertInto table columns, select, fromSource d source, remaining]

/-- Update the rows that match the source on a key, and insert the others. As in an
    insert, the native form writes the key's names last. -/
def upsertStatement (d : Dialect) (r : UpsertRequest) : Except Error (String × LogRecord) := do
  let method ← d.resolveMethod .upsert r.method
  let key ← requiredColumns "by" r.key
  let updated ← requiredColumns "update_cols" r.updated
  let common ← overlap key updated
  if !common.isEmpty then throw (.invalidArgument "update_cols" .null (.keyUpdated common))
  let table := Identifier.table r.table
  let updated ← Value.names updated
  if method ≠ .onConflict then discard (Value.names key)
  let returning ← returningClause d r.table r.returning
  let key ← Value.names key
  let clauses ← upsertClauses d table r.source method key updated
  let text ← Clause.compose d (clauses ++ returning.toList)
  return (text, .debug "query.rows"
    ("Built upsert into " ++ r.table ++ " using " ++ method.text))

/-- Explain a statement, in a format the dialect knows or without naming one. -/
def explainStatement (d : Dialect) (sql : String) (format : Value) : Except Error String :=
  match format with
  | .scalar .null => .ok ("EXPLAIN " ++ sql)
  | format =>
    if d.capabilities.explainFormats.any format.equalsText then do
      return "EXPLAIN (FORMAT " ++ (← format.asBareText) ++ ") " ++ sql
    else
      .error (.invalidArgument "format" (.texts d.capabilities.explainFormats) .notAllowed)

/-- Two expressions match: they are equal or both null. -/
def Backend.exprMatches (x y : Expr) : Backend → Expr
  | .ansi =>
    let bothNull := Expr.binary "AND" (.suffixed x "IS NULL") (.suffixed y "IS NULL")
    .paren (.binary "OR" (.binary "=" x y) (.paren bothNull))
  | .postgres => .binary "IS NOT DISTINCT FROM" x y

end SqlDialects
