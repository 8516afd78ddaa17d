-- SUMMARY: Writing names, also those handed in as values, so that the backend reads them back.
import SqlDialects.Value.Parts

/-!
# Identifiers

A name is written plainly when it is a lower-case letter or underscore followed
by such letters, digits and underscores, and no reserved word; a single line
feed may end it. Every other name stands between double quotes, and a double
quote in it is written twice.

Only a text is a name. What else is handed in as one is refused, and how depends
on the first thing that is tried with it.
-/

namespace SqlDialects

/-- Every occurrence of a character twice, all else once. -/
def doubled (quote : Char) : List Char → List Char
  | [] => []
  | c :: cs => if c = quote then c :: c :: doubled quote cs else c :: doubled quote cs

theorem doubled_of_not_mem {quote : Char} {cs : List Char} (h : quote ∉ cs) :
    doubled quote cs = cs := by
  induction cs with
  | nil => rfl
  | cons c cs ih =>
    have hc : c ≠ quote := fun e => h (e ▸ List.mem_cons_self)
    simp [doubled, hc, ih fun m => h (List.mem_cons_of_mem c m)]

namespace Identifier

def isFirst (c : Char) : Bool := ('a' ≤ c && c ≤ 'z') || c = '_'

def isPart (c : Char) : Bool := isFirst c || ('0' ≤ c && c ≤ '9')

/-- The characters behind the first one of a plain name. -/
def isPlainRest : List Char → Bool
  | [] => true
  | ['\n'] => true
  | c :: cs => isPart c && isPlainRest cs

def isPlain : List Char → Bool
  | [] => false
  | c :: cs => isFirst c && isPlainRest cs

/-- The words that mean something else when they are not quoted. -/
def reservedWords : List String :=
  ["all", "analyse", "analyze", "and", "any", "array", "as", "asc", "asymmetric", "both",
   "case", "cast", "check", "collate", "column", "constraint", "create", "current_catalog",
   "current_date", "current_role", "current_time", "current_timestamp", "current_user",
   "default", "deferrable", "desc", "distinct", "do", "else", "end", "except", "false",
   "fetch", "for", "foreign", "from", "grant", "group", "having", "in", "initially",
   "intersect", "into", "lateral", "leading", "limit", "localtime", "localtimestamp", "not",
   "null", "offset", "on", "only", "or", "order", "placing", "primary", "references",
   "returning", "select", "session_user", "some", "symmetric", "table", "then", "to",
   "trailing", "true", "union", "unique", "user", "using", "variadic", "when", "where",
   "window", "with"]

def isReserved (name : String) : Bool := reservedWords.contains name

/-- A name between double quotes. -/
def quoted (name : String) : String :=
  String.ofList ('"' :: doubled '"' name.toList ++ ['"'])

/-- A name, quoted only when it would not be read back without quotes. -/
def escaped (name : String) : String :=
  if isPlain name.toList && !isReserved name then name else quoted name

/-- The schema and the table of a table name: what stands before and behind its
    first dot. -/
def splitTable (name : String) : List Char × Option (List Char) :=
  let cs := name.toList
  match cs.dropWhile (· ≠ '.') with
  | [] => (cs, none)
  | _ :: table => (cs.takeWhile (· ≠ '.'), some table)

/-- A table name, schema and table escaped one by one. -/
def table (name : String) : String :=
  match splitTable name with
  | (_, none) => escaped name
  | (schema, some table) =>
    escaped (String.ofList schema) ++ "." ++ escaped (String.ofList table)

end Identifier

-- ---------------------------------------------------------------------------
-- Names as values
-- ---------------------------------------------------------------------------

namespace Value

/-- A name, quoted only where it has to be. -/
def escapedName (v : Value) : Except Error String := do
  return Identifier.escaped (← v.asText)

/-- A name between double quotes. -/
def quotedName (v : Value) : Except Error String := do
  return Identifier.quoted (← v.asReplaceable)

/-- The name of a table. A sequence may hold a dot as an item, and is then taken
    for one that can be split. -/
def tableName (v : Value) : Except Error String :=
  match v with
  | .scalar (.text s) => .ok (Identifier.table s)
  | .list items => .error (.lapse (lapseOf items))
  | .tuple items => .error (.lapse (lapseOf items))
  | _ => .error (.lapse .argumentShape)
where
  lapseOf (items : List Value) : Lapse :=
    if items.any (·.equalsText ".") then .noSuchPart else .argumentShape

/-- The names of columns. -/
def names (columns : List Value) : Except Error (List String) := columns.mapM asText

end Value

end SqlDialects
