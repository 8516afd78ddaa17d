-- SUMMARY: The SQL text of an expression and of a window.
import SqlDialects.Dialect.Literal
import SqlDialects.Text.Alphabetic
import SqlDialects.Value.Comparison

/-!
# Rendering

An expression is written by recursion on its tree. Parentheses are added around
a binary operation that is an operand, except on the left under the same
operator; nested parentheses are written once. An operator of letters is set off
by a blank, and a sign never meets a minus, which would open a comment.
-/

namespace SqlDialects

-- ---------------------------------------------------------------------------
-- Pieces
-- ---------------------------------------------------------------------------

/-- A name under an optional table; an empty table counts as none. -/
def qualifiedName (table : Option String) (name : String) : String :=
  match table with
  | some table => if table = "" then name else Identifier.escaped table ++ "." ++ name
  | none => name

def commaSeparated (items : List String) : String := ", ".intercalate items

def parenthesised (s : String) : String := "(" ++ s ++ ")"

/-- Only binary operations need parentheses as operands. -/
def Expr.isBinary : Expr → Bool
  | .binary .. => true
  | _ => false

/-- A binary operation by another operator than the one it stands left of. -/
def Expr.isOtherBinary (op : String) : Expr → Bool
  | .binary inner .. => inner ≠ op
  | _ => false

def wrapIf (condition : Bool) (s : String) : String :=
  if condition then parenthesised s else s

/-- An operator before its operand. -/
def unaryText (op operand : String) : String :=
  if Text.isAlphabetic op then op ++ " " ++ operand
  else op ++ wrapIf (operand.toList.head? == some '-') operand

-- ---------------------------------------------------------------------------
-- Frames
-- ---------------------------------------------------------------------------

/-- A row offset without its minus, for one that precedes the current row. -/
def precedingText : Value → Except Error String
  | .scalar (.number (.whole n)) => wholeText (-n)
  | .scalar (.number (.double x)) => .ok x.abs.text
  | .scalar (.number (.decimal d)) =>
    match d.neg? with
    | some d => .ok d.text
    | none => .error (.lapse .decimalOverflow)
  | _ => .error (.lapse .unordered)

/-- A row offset for a row that follows the current one. -/
def followingText : Value → Except Error String
  | .scalar (.number (.whole n)) => wholeText n
  | v => .ok v.bareText

/-- The end of a frame in words. -/
def boundText (isStart : Bool) : Value → Except Error String
  | .scalar .null => .ok (if isStart then "UNBOUNDED PRECEDING" else "UNBOUNDED FOLLOWING")
  | v => do
    if ← v.same (.whole 0) then return "CURRENT ROW"
    if ← (Number.whole 0).isAbove v then return (← precedingText v) ++ " PRECEDING"
    return (← followingText v) ++ " FOLLOWING"

def frameText : List Value → Except Error String
  | [start, stop] => do
    let first ← boundText true start
    let last ← boundText false stop
    return "ROWS BETWEEN " ++ first ++ " AND " ++ last
  | _ => .error (.lapse .itemCount)

/-- The parts of a window that are there, in parentheses. -/
def windowText (partition order : List String) (frame : Option String) : String :=
  let parts :=
    (if partition.isEmpty then [] else ["PARTITION BY " ++ commaSeparated partition]) ++
    (if order.isEmpty then [] else ["ORDER BY " ++ commaSeparated order]) ++
    frame.toList
  parenthesised (" ".intercalate parts)

-- ---------------------------------------------------------------------------
-- Expressions
-- ---------------------------------------------------------------------------

def callText (name : String) (args : List String) (distinct : Bool) : String :=
  name ++ parenthesised ((if distinct then "DISTINCT " else "") ++ commaSeparated args)

mutual

/-- The SQL text of an expression. -/
def Expr.render (d : Dialect) : Expr → Except Error String
  | .literal v => d.backend.literal v
  | .ident name table => .ok (qualifiedName table (Identifier.escaped name))
  | .keyword text => .ok text
  | .raw text => .ok text
  | .star table => .ok (qualifiedName table "*")
  | .call name args distinct => do
    let args ← renderAll d args
    return callText name args distinct
  | .binary op left right => do
    let l ← left.render d
    let r ← right.render d
    return wrapIf (left.isOtherBinary op) l ++ " " ++ op ++ " " ++ wrapIf right.isBinary r
  | .unary op operand => do
    let s ← operand.render d
    return unaryText op (wrapIf operand.isBinary s)
  | .suffixed operand op => do
    let s ← operand.render d
    return wrapIf operand.isBinary s ++ " " ++ op
  | .cast e typeName => do
    let s ← e.render d
    return "CAST(" ++ s ++ " AS " ++ typeName ++ ")"
  | .paren (.paren e) => (Expr.paren e).render d
  | .paren e => do
    let s ← e.render d
    return parenthesised s
  | .caseWhen whens none => do
    let branches ← renderWhens d whens
    return " ".intercalate ("CASE" :: branches ++ ["END"])
  | .caseWhen whens (some otherwise) => do
    let branches ← renderWhens d whens
    let last ← otherwise.render d
    return " ".intercalate ("CASE" :: branches ++ ["ELSE " ++ last, "END"])
  | .group items => do
    let items ← renderAll d items
    return parenthesised (commaSeparated items)
  | .ordered e descending => do
    let s ← e.render d
    return if descending then s ++ " DESC" else s
  | .withinGroup call orderBy => do
    let order ← renderAll d orderBy
    let s ← call.renderAggregate d
    return s ++ " WITHIN GROUP (ORDER BY " ++ commaSeparated order ++ ")"
  | .over e w => do
    let s ← e.render d
    let window ← w.renderUse d
    return s ++ " OVER " ++ window
  | .stray v => .error (.uncompilable v.kindName)

/-- The SQL text of the call in an ordered-set aggregate. A call of the caller's side
    has arguments too, which are looked at first, but is no SQL call. -/
def Expr.renderAggregate (d : Dialect) : Expr → Except Error String
  | .call name args distinct => do
    let args ← renderAll d args
    return callText name args distinct
  | .stray (.call _ args _) => do
    checkValues d args
    throw (.lapse .noSuchPart)
  | _ => .error (.lapse .noSuchPart)

/-- Every value has SQL text. -/
def checkValues (d : Dialect) : List Value → Except Error Unit
  | [] => .ok ()
  | .sql e :: vs => do
    let _ ← e.render d
    checkValues d vs
  | v :: _ => .error (.uncompilable v.kindName)

/-- The SQL texts of expressions, in order. -/
def renderAll (d : Dialect) : List Expr → Except Error (List String)
  | [] => .ok []
  | e :: es => do
    let s ← e.render d
    let rest ← renderAll d es
    return s :: rest

/-- The branches of a case distinction. -/
def renderWhens (d : Dialect) : List (Expr × Expr) → Except Error (List String)
  | [] => .ok []
  | (condition, result) :: rest => do
    let c ← condition.render d
    let r ← result.render d
    let branches ← renderWhens d rest
    return ("WHEN " ++ c ++ " THEN " ++ r) :: branches

/-- A window at its use: by name where it has one and the dialect can refer to it. -/
def Window.renderUse (d : Dialect) : Window → Except Error String
  | ⟨partitionBy, orderBy, frame, name⟩ =>
    if d.capabilities.windowClause && name.any (· ≠ "") then
      .ok (Identifier.escaped (name.getD ""))
    else do
      let partition ← renderAll d partitionBy
      let order ← renderAll d orderBy
      let frame ← frame.mapM frameText
      return windowText partition order frame

end

/-- The parenthesised specification of a window. -/
def Window.render (d : Dialect) (w : Window) : Except Error String := do
  let partition ← renderAll d w.partitionBy
  let order ← renderAll d w.orderBy
  let frame ← w.frame.mapM frameText
  return windowText partition order frame

/-- The SQL text of a value; only a SQL expression has one. -/
def Value.render (d : Dialect) (v : Value) : Except Error String := v.asChild.render d

end SqlDialects
