-- SUMMARY: Writing plain values as SQL literals of a backend.
import SqlDialects.Dialect.Basic
import SqlDialects.Dialect.Identifier

/-!
# Literals

Every scalar but bytes has a literal. A text stands between single quotes, a
quote in it is written twice, and a NUL character is refused. A backend without
a spelling for them refuses numbers that are not finite.
-/

namespace SqlDialects

/-- A whole number in decimal digits, when it has few enough of them. -/
def wholeText (n : Int) : Except Error String :=
  if n.natAbs < Nat.pow 10 wholeDigitLimit then .ok (toString n) else .error (.lapse .tooManyDigits)

namespace Backend

def unsupportedLiteral (backend : Backend) (allowed : String) : Error :=
  .unsupportedArgument "literal" (.text allowed) (some backend.displayName)

def nonFinite (backend : Backend) : Error := backend.unsupportedLiteral "finite numbers"

def textLiteral (backend : Backend) (s : String) : Except Error String :=
  if s.toList.contains (Char.ofNat 0) then
    .error (backend.unsupportedLiteral "strings without NUL characters")
  else .ok (String.ofList ('\'' :: doubled '\'' s.toList ++ ['\'']))

/-- A double: finite ones by their shortest text, the others by a cast where the
    backend has one. -/
def doubleLiteral : Backend → Binary64 → Except Error String
  | _, .finite negative place => .ok (Binary64.finite negative place).text
  | .postgres, .nan => .ok "'NaN'::float8"
  | .postgres, .infinite negative =>
    .ok (if negative then "'-Infinity'::float8" else "'Infinity'::float8")
  | backend, _ => .error backend.nonFinite

def numberLiteral (backend : Backend) : Number → Except Error String
  | .whole n => wholeText n
  | .double x => backend.doubleLiteral x
  | .decimal d => if d.isFinite then .ok d.text else .error backend.nonFinite

/-- A quoted calendar value under the name of its type. -/
def tagged : Backend → (keyword cast body : String) → String
  | .ansi, keyword, _, body => keyword ++ " '" ++ body ++ "'"
  | .postgres, _, cast, body => "'" ++ body ++ "'::" ++ cast

def momentCast (t : TimeOfDay) : String :=
  if t.offset.isSome then "timestamptz" else "timestamp"

/-- The literal of a scalar. -/
def scalarLiteral (backend : Backend) : Scalar → Except Error String
  | .null => .ok "NULL"
  | .bool b => .ok (if b then "TRUE" else "FALSE")
  | .number n => backend.numberLiteral n
  | .text s => backend.textLiteral s
  | .date d => .ok (backend.tagged "DATE" "date" d.iso)
  | .time t => .ok (backend.tagged "TIME" "time" t.iso)
  | .moment d t => .ok (backend.tagged "TIMESTAMP" (momentCast t) (isoMoment d t))
  | s => .error (.unescapable s.kindName)

/-- The literal of a value: scalars only. -/
def literal (backend : Backend) : Value → Except Error String
  | .scalar s => backend.scalarLiteral s
  | v => .error (.unescapable v.kindName)

end Backend

end SqlDialects
