-- SUMMARY: The values callers hand in and the SQL expressions built from them, as one family of types.
import SqlDialects.Scalar

/-!
# Values and expressions

A *value* is what a caller writes: a scalar, a sequence, a column, a call of a
translatable function, a pattern marked as fixed text, or SQL that is already
built. An *expression* is a SQL fragment as a tree. The two types are one
family: literals hold values, and built SQL may stand among values.

User data travels in `Expr.literal`, which is escaped as a literal, and in
`Expr.ident`, which is escaped as an identifier. `Expr.stray` is a value that
stands where an expression belongs; such a tree can be held and compared, but
it has no SQL text.
-/

namespace SqlDialects

mutual

/-- What a caller writes. -/
inductive Value where
  | scalar (s : Scalar)
  | list (items : List Value)
  | tuple (items : List Value)
  /-- A column, optionally of a named table. -/
  | column (name : String) (table : Option String)
  /-- A call of a translatable function with positional and named arguments. -/
  | call (name : String) (args : List Value) (named : List (String × Value))
  /-- A pattern to be matched as fixed text. -/
  | fixed (pattern : Value)
  | sql (e : Expr)
  | window (w : Window)

/-- A SQL fragment. -/
inductive Expr where
  | literal (v : Value)
  | ident (name : String) (table : Option String)
  /-- A fixed token of the language, written as it is. -/
  | keyword (text : String)
  /-- Text the caller has escaped already, written as it is. -/
  | raw (text : String)
  | star (table : Option String)
  | call (name : String) (args : List Expr) (distinct : Bool)
  | binary (op : String) (left right : Expr)
  | unary (op : String) (operand : Expr)
  | suffixed (operand : Expr) (op : String)
  | cast (e : Expr) (typeName : String)
  | paren (e : Expr)
  | caseWhen (whens : List (Expr × Expr)) (otherwise : Option Expr)
  /-- A parenthesised list, such as the right side of `IN`. -/
  | group (items : List Expr)
  | ordered (e : Expr) (descending : Bool)
  /-- An ordered-set aggregate: `call WITHIN GROUP (ORDER BY …)`. -/
  | withinGroup (call : Expr) (orderBy : List Expr)
  | over (e : Expr) (w : Window)
  | stray (v : Value)

/-- A window. A frame is a pair of row offsets: null is unbounded, a negative
    offset precedes the current row, and a positive one follows it. What is
    handed in as a frame is looked at when it is rendered, not before. -/
structure Window where
  partitionBy : List Expr := []
  orderBy : List Expr := []
  frame : Option (List Value) := none
  name : Option String := none

end

instance : Inhabited Value := ⟨.scalar .null⟩
instance : Inhabited Expr := ⟨.literal (.scalar .null)⟩
instance : Inhabited Window := ⟨{}⟩

-- ---------------------------------------------------------------------------
-- Scalars as values
-- ---------------------------------------------------------------------------

namespace Value

abbrev null : Value := .scalar .null
abbrev bool (b : Bool) : Value := .scalar (.bool b)
abbrev number (n : Number) : Value := .scalar (.number n)
abbrev whole (n : Int) : Value := .scalar (.number (.whole n))
abbrev double (x : Binary64) : Value := .scalar (.number (.double x))
abbrev text (s : String) : Value := .scalar (.text s)

/-- A tuple of texts. -/
def texts (ss : List String) : Value := .tuple (ss.map .text)

end Value

-- ---------------------------------------------------------------------------
-- Between values and expressions
-- ---------------------------------------------------------------------------

/-- The expression for a value: built SQL stays, all else becomes a literal. -/
def Value.toExpr : Value → Expr
  | .sql e => e
  | v => .literal v

/-- A value standing where an expression belongs. -/
def Value.asChild : Value → Expr
  | .sql e => e
  | v => .stray v

/-- The value an expression is, when it is looked at from outside. -/
def Expr.toValue : Expr → Value
  | .stray v => v
  | e => .sql e

@[simp] theorem Value.toExpr_sql (e : Expr) : (Value.sql e).toExpr = e := rfl

/-- Known when translating: every value but a SQL expression, and every literal. -/
def Value.isStatic : Value → Bool
  | .sql (.literal _) => true
  | .sql _ => false
  | _ => true

/-- The value inside a literal; any other value as it is. -/
def Value.staticValue : Value → Value
  | .sql (.literal v) => v
  | v => v

/-- A column or a call: an expression of the caller's side. -/
def Value.isHost : Value → Bool
  | .column .. => true
  | .call .. => true
  | _ => false

/-- Null, false, zero and everything empty count as no value. -/
def Value.isTruthy : Value → Bool
  | .scalar s => s.isTruthy
  | .list items => !items.isEmpty
  | .tuple items => !items.isEmpty
  | _ => true

-- ---------------------------------------------------------------------------
-- Parts
-- ---------------------------------------------------------------------------

section

-- whether a call counts with what it holds, and what is asked of a part
variable (calls : Bool) (p : Value → Bool)

mutual

/-- Every part of a value is as asked: the value itself and all that stands inside it. A
    column is one part, and so is a call unless calls count with what they hold. -/
def Value.everyPart : Value → Bool
  | .list items => p (.list items) && everyPartOf items
  | .tuple items => p (.tuple items) && everyPartOf items
  | .call name args named =>
    p (.call name args named) && (!calls || everyPartOf args && everyPartOfNamed named)
  | .fixed pattern => p (.fixed pattern) && pattern.everyPart
  | .sql e => p (.sql e) && e.everyPart
  | .window w => p (.window w) && w.everyPart
  | v => p v

def everyPartOf : List Value → Bool
  | [] => true
  | v :: vs => v.everyPart && everyPartOf vs

def everyPartOfNamed : List (String × Value) → Bool
  | [] => true
  | (_, v) :: rest => v.everyPart && everyPartOfNamed rest

def Expr.everyPart : Expr → Bool
  | .literal v => v.everyPart
  | .call _ args _ => everyPartOfAll args
  | .binary _ left right => left.everyPart && right.everyPart
  | .unary _ operand => operand.everyPart
  | .suffixed operand _ => operand.everyPart
  | .cast e _ => e.everyPart
  | .paren e => e.everyPart
  | .caseWhen whens none => everyPartOfWhens whens
  | .caseWhen whens (some otherwise) => everyPartOfWhens whens && otherwise.everyPart
  | .group items => everyPartOfAll items
  | .ordered e _ => e.everyPart
  | .withinGroup call orderBy => call.everyPart && everyPartOfAll orderBy
  | .over e w => e.everyPart && w.everyPart
  | .stray v => v.everyPart
  | _ => true

def everyPartOfAll : List Expr → Bool
  | [] => true
  | e :: es => e.everyPart && everyPartOfAll es

def everyPartOfWhens : List (Expr × Expr) → Bool
  | [] => true
  | (condition, result) :: rest =>
    condition.everyPart && result.everyPart && everyPartOfWhens rest

def Window.everyPart : Window → Bool
  | ⟨partitionBy, orderBy, none, _⟩ => everyPartOfAll partitionBy && everyPartOfAll orderBy
  | ⟨partitionBy, orderBy, some bounds, _⟩ =>
    everyPartOfAll partitionBy && everyPartOfAll orderBy && everyPartOf bounds

end

end

-- ---------------------------------------------------------------------------
-- Kinds
-- ---------------------------------------------------------------------------

/-- The name of an expression's kind, as messages give it. -/
def Expr.nodeName : Expr → String
  | .literal _ => "Literal"
  | .ident .. => "Ident"
  | .keyword _ => "Keyword"
  | .raw _ => "Raw"
  | .star _ => "Star"
  | .call .. => "Call"
  | .binary .. => "Infix"
  | .unary .. => "Prefix"
  | .suffixed .. => "Postfix"
  | .cast .. => "Cast"
  | .paren _ => "Paren"
  | .caseWhen .. => "Case"
  | .group _ => "ExprList"
  | .ordered .. => "OrderBy"
  | .withinGroup .. => "WithinGroup"
  | .over .. => "Over"
  | .stray _ => "Stray"

/-- The name of a value's kind, as messages give it. -/
def Value.kindName : Value → String
  | .scalar s => s.kindName
  | .list _ => "list"
  | .tuple _ => "tuple"
  | .column .. => "HostColumn"
  | .call .. => "HostCall"
  | .fixed _ => "FixedPattern"
  | .sql e => e.nodeName
  | .window _ => "WindowSpec"

-- ---------------------------------------------------------------------------
-- Builders
-- ---------------------------------------------------------------------------

namespace Expr

/-- A function call on values. -/
def callOf (name : String) (args : List Value) : Expr :=
  .call name (args.map Value.toExpr) false

/-- A binary operation on values. -/
def binaryOf (op : String) (left right : Value) : Expr :=
  .binary op left.toExpr right.toExpr

/-- `EXTRACT(part FROM e)`. -/
def extract (part : String) (e : Value) : Expr :=
  .call "EXTRACT" [.binary "FROM" (.keyword part) e.toExpr] false

/-- `NOT (e)`. -/
def negate (e : Value) : Expr := .unary "NOT" (.paren e.toExpr)

/-- Join expressions, each in parentheses, from left to right; `none` of none. -/
def conjunction? (connector : String) : List Expr → Option Expr
  | [] => none
  | e :: rest => some (rest.foldl (fun left e => .binary connector left (.paren e)) (.paren e))

end Expr

/-- The window of an aggregate: without a frame the ordering is dropped. -/
def Window.forAggregate (w : Window) : Window :=
  if w.frame.isSome then w else { partitionBy := w.partitionBy }

end SqlDialects
