-- SUMMARY: Clauses of statements and their composition, line by line.
import SqlDialects.Dialect.Identifier
import SqlDialects.NameTable
import SqlDialects.Render

/-!
# Clauses

A statement is a list of clauses, one per line. A clause is a leading keyword
followed by expressions; without expressions it is the keyword alone.
-/

namespace SqlDialects

structure Clause where
  keyword : String
  items : List Expr := []
  separator : String := ", "
  /-- Parentheses around the items, as in `INSERT INTO t (a, b)`. -/
  parens : Bool := false

namespace Clause

def render (d : Dialect) (c : Clause) : Except Error String :=
  if c.items.isEmpty then .ok c.keyword
  else do
    let items ← renderAll d c.items
    return c.keyword ++ " " ++ wrapIf c.parens (c.separator.intercalate items)

/-- A clause, or why its columns have no names; the latter shows when the clause is
    rendered, not before. -/
abbrev Draft := Except Error Clause

/-- The texts of drafted clauses, one per line, rendered in order. -/
def composeDrafts (d : Dialect) (drafts : List Draft) : Except Error String := do
  let lines ← drafts.mapM fun draft => draft.bind (render d)
  return "\n".intercalate lines

/-- The texts of clauses, one per line. -/
def compose (d : Dialect) (clauses : List Clause) : Except Error String :=
  composeDrafts d (clauses.map .ok)

end Clause

-- ---------------------------------------------------------------------------
-- Columns
-- ---------------------------------------------------------------------------

/-- The columns a value lists: nothing when it counts as false, else its items. -/
def listedColumns (v : Value) : Except Error (List Value) :=
  if v.isTruthy then v.items else .ok []

/-- At least one column; a text is one column. -/
def requiredColumns (argument : String) (v : Value) : Except Error (List Value) := do
  let columns ← match v with
    | .scalar (.text s) => .ok [.text s]
    | v => listedColumns v
  if columns.isEmpty then throw (.invalidArgument argument .null .noColumns) else return columns

def columnList (columns : List String) : List Expr := columns.map (.ident · none)

/-- A column behind a qualifier that is SQL already. -/
def qualifiedText (qualifier column : String) : String :=
  qualifier ++ "." ++ Identifier.escaped column

def qualified (qualifier column : String) : Expr := .raw (qualifiedText qualifier column)

-- ---------------------------------------------------------------------------
-- Common clauses
-- ---------------------------------------------------------------------------

/-- A returned column of a table; `*` stands for all of them. -/
def returnedColumn (table : String) (column : Value) : Except Error Expr :=
  if column.equalsText "*" then .ok (.raw (table ++ ".*"))
  else do return qualified table (← column.asText)

/-- `RETURNING` with columns of a table. Without columns there is no clause. -/
def returningClause (d : Dialect) (table : String) (columns : Value) :
    Except Error (Option Clause) :=
  if !columns.isTruthy then .ok none
  else if d.capabilities.returning then do
    let items ← (← columns.items).mapM (returnedColumn (Identifier.table table))
    return some { keyword := "RETURNING", items }
  else .error (.unsupportedArgument "returning_cols" .null (some d.displayName))

/-- `SET` with one assignment per column. -/
def setClause (assignments : List (String × Value)) : Clause where
  keyword := "SET"
  items := (NameTable.ofList assignments).map fun (column, v) =>
    .binary "=" (.ident column none) v.toExpr

def conflictTarget (columns : List String) : Clause where
  keyword := "ON CONFLICT"
  items := [.group (columnList columns)]

/-- A subquery in parentheses under a given name. -/
def tableAlias (d : Dialect) (source given : String) : String :=
  parenthesised source ++ (if d.capabilities.tableAliasWithAs then " AS " else " ") ++
    Identifier.escaped given

/-- `WINDOW name AS (…)`; a dialect that cannot refer to windows has no clause. -/
def windowClause (d : Dialect) (windows : List (String × Window)) :
    Except Error (Option Clause) :=
  match NameTable.ofList windows with
  | [] => .ok none
  | windows =>
    if d.capabilities.windowClause then do
      let items ← windows.mapM fun (name, w) => do
        let s ← w.render d
        return Expr.raw (Identifier.escaped name ++ " AS " ++ s)
      return some { keyword := "WINDOW", items }
    else .ok none

-- ---------------------------------------------------------------------------
-- Literal rows
-- ---------------------------------------------------------------------------

/-- The text of a row of as many values as there are columns. -/
def rowText (d : Dialect) (columns row : List Value) : Except Error String :=
  if row.length = columns.length then (Expr.group (row.map Value.toExpr)).render d
  else .error (.rowShape row columns)

/-- `SELECT * FROM (VALUES …) AS given (columns)` from literal rows. The columns are
    gone through for every row, and their names are looked at last. -/
def valuesSubquery (d : Dialect) (columns rows : Value) (given : String) :
    Except Error String := do
  if !columns.isTruthy then throw .valuesWithoutColumns
  let rendered ← (← rows.items).mapM fun row => do
    let row ← row.items
    let columns ← columns.items
    rowText d columns row
  if rendered.isEmpty then throw .valuesWithoutRows
  let names ← Value.names (← columns.items)
  return "SELECT * FROM " ++ tableAlias d ("VALUES " ++ commaSeparated rendered) given ++ " " ++
    parenthesised (commaSeparated (names.map Identifier.escaped))

end SqlDialects
