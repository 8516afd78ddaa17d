-- SUMMARY: Chains of operands by one operator: lexemes, chains as they are written, and the expressions they stand for.
import SqlDialects.Value.Basic

/-!
# Written chains

A chain is an operand, or operands with the same operator between them, grouped to the
left. An operand is a column, a literal, a call, a cast, or a chain between parentheses.
So no operator has to bind tighter than another one: where two of them meet there are
parentheses.

```
chain    ::=  operand (op operand)*                        all operators the same
operand  ::=  column | literal | name ( [DISTINCT] [chain {, chain}] )
              | CAST ( chain AS name ) | ( chain )
```

The *yield* of a chain is the row of lexemes one reads it from.
-/

namespace SqlDialects.Chains

/-! ## Lexemes -/

/-- An operator that is one lexeme. -/
inductive Operator where
  /-- The operator that may also be the sign of a number. -/
  | minus
  /-- Any other row of operator characters. -/
  | symbols (s : String)
  | and
  | or
  | among
  | partOf
  | like
  | ilike
  deriving DecidableEq

def Operator.text : Operator → String
  | minus => "-"
  | symbols s => s
  | and => "AND"
  | or => "OR"
  | among => "IN"
  | partOf => "FROM"
  | like => "LIKE"
  | ilike => "ILIKE"

inductive Lexeme where
  | name (s : String)
  | number (n : Nat)
  | text (s : String)
  | null
  | truth (b : Bool)
  | op (o : Operator)
  | not
  | cast
  | as
  | distinct
  | opening
  | closing
  | comma
  | dot
  deriving DecidableEq

/-- What stands between two operands. -/
inductive Connector where
  | op (o : Operator)
  | notLike
  deriving DecidableEq

namespace Connector

def text : Connector → String
  | op o => o.text
  | notLike => "NOT LIKE"

def lexemes : Connector → List Lexeme
  | op o => [.op o]
  | notLike => [.not, .op .like]

end Connector

/-! ## Chains -/

mutual

inductive Operand where
  | column (name : String) (table : Option String)
  | null
  | truth (b : Bool)
  | whole (n : Int)
  | text (s : String)
  | call (name : String) (distinct : Bool) (args : List Chain)
  | cast (x : Chain) (typeName : String)
  | paren (x : Chain)

/-- One operand, or at least two by one operator. -/
inductive Chain where
  | one (x : Operand)
  | many (c : Connector) (first second : Operand) (rest : List Operand)

end

namespace Chain

/-- A chain that an operand can be added to by an operator. -/
def admits : Chain → Connector → Bool
  | one _, _ => true
  | many c .., op => c = op

/-- A longer chain. -/
def add : Chain → Connector → Operand → Chain
  | one x, op, y => many op x y []
  | many c first second rest, _, y => many c first second (rest ++ [y])

end Chain

/-! ## Expressions -/

mutual

/-- The expression an operand stands for; parentheses only group. -/
def Operand.expr : Operand → Expr
  | .column name table => .ident name table
  | .null => .literal .null
  | .truth b => .literal (.bool b)
  | .whole n => .literal (.whole n)
  | .text s => .literal (.text s)
  | .call name distinct args => .call name (exprAll args) distinct
  | .cast x typeName => .cast x.expr typeName
  | .paren x => x.expr

def Chain.expr : Chain → Expr
  | .one x => x.expr
  | .many c first second rest => exprRest c (.binary c.text first.expr second.expr) rest

/-- Further operands, grouped to the left. -/
def exprRest (c : Connector) (left : Expr) : List Operand → Expr
  | [] => left
  | x :: xs => exprRest c (.binary c.text left x.expr) xs

def exprAll : List Chain → List Expr
  | [] => []
  | x :: xs => x.expr :: exprAll xs

end

/-! ## Yields -/

/-- The lexemes of a whole number: a minus in front of a negative one. -/
def wholeLexemes : Int → List Lexeme
  | .ofNat n => [.number n]
  | .negSucc n => [.op .minus, .number (n + 1)]

def columnLexemes (name : String) : Option String → List Lexeme
  | none => [.name name]
  | some table => [.name table, .dot, .name name]

def distinctLexemes (distinct : Bool) : List Lexeme := if distinct then [.distinct] else []

mutual

def Operand.yield : Operand → List Lexeme
  | .column name table => columnLexemes name table
  | .null => [.null]
  | .truth b => [.truth b]
  | .whole n => wholeLexemes n
  | .text s => [.text s]
  | .call name distinct args =>
    .name name :: .opening :: distinctLexemes distinct ++ yieldAll args ++ [.closing]
  | .cast x typeName => .cast :: .opening :: x.yield ++ [.as, .name typeName, .closing]
  | .paren x => .opening :: x.yield ++ [.closing]

/-- The lexemes a chain is read from. -/
def Chain.yield : Chain → List Lexeme
  | .one x => x.yield
  | .many c first second rest => first.yield ++ (c.lexemes ++ second.yield) ++ yieldRest c rest

/-- The lexemes of further operands, each behind the operator. -/
def yieldRest (c : Connector) : List Operand → List Lexeme
  | [] => []
  | x :: xs => c.lexemes ++ x.yield ++ yieldRest c xs

/-- The lexemes of arguments, with commas between them. -/
def yieldAll : List Chain → List Lexeme
  | [] => []
  | x :: xs => x.yield ++ yieldMore xs

/-- The lexemes of further arguments, each behind a comma. -/
def yieldMore : List Chain → List Lexeme
  | [] => []
  | x :: xs => .comma :: x.yield ++ yieldMore xs

end

variable {c : Connector}

theorem yieldRest_append (xs ys : List Operand) :
    yieldRest c (xs ++ ys) = yieldRest c xs ++ yieldRest c ys := by
  induction xs with
  | nil => rfl
  | cons x xs ih => simp [yieldRest, ih]

theorem exprRest_append (left : Expr) (xs : List Operand) (x : Operand) :
    exprRest c left (xs ++ [x]) = .binary c.text (exprRest c left xs) x.expr := by
  induction xs generalizing left with
  | nil => rfl
  | cons y ys ih => rw [List.cons_append, exprRest, exprRest, ih]

namespace Chain

variable {x : Chain} (y : Operand)

/-- A longer chain is read from what it is made of. -/
theorem yield_add (h : x.admits c = true) :
    (x.add c y).yield = x.yield ++ (c.lexemes ++ y.yield) := by
  cases x with
  | one x => simp [add, yield, yieldRest]
  | many c' first second rest =>
    obtain rfl : c' = c := of_decide_eq_true h
    simp [add, yield, yieldRest, yieldRest_append]

/-- A longer chain goes on with its operator. -/
theorem admits_add (h : x.admits c = true) : (x.add c y).admits c = true := by
  cases x with
  | one x => exact decide_eq_true rfl
  | many c' first second rest => exact h

/-- An operand that is added groups what was there. -/
theorem expr_add (h : x.admits c = true) : (x.add c y).expr = .binary c.text x.expr y.expr := by
  cases x with
  | one x => rfl
  | many c' first second rest =>
    obtain rfl : c' = c := of_decide_eq_true h
    exact exprRest_append _ rest y

end Chain

end SqlDialects.Chains
