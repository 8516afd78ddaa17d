-- SUMMARY: SQL operations as they are written: lexemes, trees with their parentheses, and the trees that precedence allows.

/-!
# Written operations

A tree records an operation with the parentheses it is written with. Its *yield*
is the row of lexemes one reads it from.

Operators bind by level, loosest first:

```
1 OR    2 AND    3 NOT    4 IS NULL    5 = <> < <= > >=    6 IN    7 + -    8 * / %    9 - (sign)
```

Between two operators an operand goes to the tighter one. Operators of one level
go from left to right, and two comparisons side by side are an error. An operator
in front of its operand takes all that binds tighter behind it. A tree is
*grouped* when none of its operands is taken away by a neighbouring operator.
-/

namespace SqlDialects.Grouping

/-! ## Lexemes -/

/-- An operator between two operands. -/
inductive Operator where
  | or | and
  | eq | ne | lt | le | gt | ge
  | add | sub
  | mul | div | mod
  deriving DecidableEq

namespace Operator

def text : Operator → String
  | or => "OR"
  | and => "AND"
  | eq => "="
  | ne => "<>"
  | lt => "<"
  | le => "<="
  | gt => ">"
  | ge => ">="
  | add => "+"
  | sub => "-"
  | mul => "*"
  | div => "/"
  | mod => "%"

def isComparison : Operator → Bool
  | eq | ne | lt | le | gt | ge => true
  | _ => false

def isLogical : Operator → Bool
  | or | and => true
  | _ => false

/-- How tightly an operator binds. -/
def level : Operator → Nat
  | or => 1
  | and => 2
  | eq | ne | lt | le | gt | ge => 5
  | add | sub => 7
  | mul | div | mod => 8

/-- The loosest operator that may end its left operand: one of its own level, unless
    it is a comparison. -/
def leftBound (op : Operator) : Nat := if op.isComparison then op.level + 1 else op.level

theorem level_pos (op : Operator) : 1 ≤ op.level := by cases op <;> decide

theorem level_le_leftBound (op : Operator) : op.level ≤ op.leftBound := by cases op <;> decide

theorem leftBound_le (op : Operator) : op.leftBound ≤ 9 := by cases op <;> decide

theorem level_lt (op : Operator) : op.level < 9 := by cases op <;> decide

theorem leftBound_le_level_iff (op : Operator) :
    op.leftBound ≤ op.level ↔ op.isComparison = false := by cases op <;> decide

theorem leftBound_le_three_iff (op : Operator) : op.leftBound ≤ 3 ↔ op.isLogical = true := by
  cases op <;> decide

theorem level_lt_four_iff (op : Operator) : op.level < 4 ↔ op.isLogical = true := by
  cases op <;> decide

/-- `IS NULL` and `IN` stand between the levels of these operators. -/
theorem level_ne (op : Operator) : op.level ≠ 4 ∧ op.level ≠ 6 := by cases op <;> decide

end Operator

inductive Lexeme where
  | name (s : String)
  | number (n : Nat)
  | truth (b : Bool)
  | op (o : Operator)
  | not
  | is
  | null
  | among
  | opening
  | closing
  | comma
  | dot
  deriving DecidableEq

/-! ## Trees -/

/-- An operation with the parentheses it is written with. Membership is in at least
    one item. -/
inductive Tree where
  | column (name : String) (table : Option String)
  | whole (n : Int)
  | truth (b : Bool)
  | paren (x : Tree)
  | neg (x : Tree)
  | not (x : Tree)
  | binary (op : Operator) (left right : Tree)
  | isNull (x : Tree)
  | among (x first : Tree) (rest : List Tree)

/-- The lexemes of a whole number: a minus in front of a negative one. -/
def wholeLexemes : Int → List Lexeme
  | .ofNat n => [.number n]
  | .negSucc n => [.op .sub, .number (n + 1)]

def columnLexemes (name : String) : Option String → List Lexeme
  | none => [.name name]
  | some table => [.name table, .dot, .name name]

namespace Tree

mutual

/-- The lexemes a tree is read from. -/
def yield : Tree → List Lexeme
  | column name table => columnLexemes name table
  | whole n => wholeLexemes n
  | truth b => [.truth b]
  | paren x => .opening :: x.yield ++ [.closing]
  | neg x => .op .sub :: x.yield
  | not x => .not :: x.yield
  | binary op left right => left.yield ++ .op op :: right.yield
  | isNull x => x.yield ++ [.is, .null]
  | among x first rest =>
    x.yield ++ .among :: .opening :: first.yield ++ yieldRest rest ++ [.closing]

/-- The lexemes of further items, each behind a comma. -/
def yieldRest : List Tree → List Lexeme
  | [] => []
  | x :: xs => .comma :: x.yield ++ yieldRest xs

end

/-! ## Precedence -/

/-- The level of what nothing can take apart. -/
def closedLevel : Nat := 10

/-- The level of the loosest operator to which an operator in front of the tree could
    lose its operand. -/
def leftLevel : Tree → Nat
  | binary op left _ => min op.level left.leftLevel
  | isNull x => min 4 x.leftLevel
  | among x _ _ => min 6 x.leftLevel
  | _ => closedLevel

/-- The level of the loosest operator that could take what stands behind the tree. -/
def rightLevel : Tree → Nat
  | neg x => min 9 x.rightLevel
  | not x => min 3 x.rightLevel
  | binary op _ right => min op.level right.rightLevel
  | _ => closedLevel

/-- A number that a minus in front of it would make negative. -/
def isPositive : Tree → Bool
  | whole (.ofNat (_ + 1)) => true
  | _ => false

mutual

/-- Every operand stays with its operator. -/
def isGrouped : Tree → Bool
  | column .. => true
  | whole _ => true
  | truth _ => true
  | paren x => x.isGrouped
  | neg x => 9 < x.leftLevel && !x.isPositive && x.isGrouped
  | not x => 3 < x.leftLevel && x.isGrouped
  | binary op left right =>
    op.leftBound ≤ left.rightLevel && op.level < right.leftLevel && left.isGrouped &&
      right.isGrouped
  | isNull x => 4 < x.rightLevel && x.isGrouped
  | among x first rest =>
    6 < x.rightLevel && x.isGrouped && first.isGrouped && restGrouped rest

def restGrouped : List Tree → Bool
  | [] => true
  | x :: xs => x.isGrouped && restGrouped xs

end

theorem leftLevel_pos (x : Tree) : 1 ≤ x.leftLevel := by
  fun_induction leftLevel x with
  | case1 op left right ih => have := op.level_pos; omega
  | case2 x ih => omega
  | case3 x first rest ih => omega
  | case4 => decide

theorem rightLevel_pos (x : Tree) : 1 ≤ x.rightLevel := by
  fun_induction rightLevel x with
  | case1 x ih => omega
  | case2 x ih => omega
  | case3 op left right ih => have := op.level_pos; omega
  | case4 => decide

theorem yieldRest_append (xs ys : List Tree) :
    yieldRest (xs ++ ys) = yieldRest xs ++ yieldRest ys := by
  induction xs with
  | nil => rfl
  | cons x xs ih => simp [yieldRest, ih]

theorem restGrouped_append (xs ys : List Tree) :
    restGrouped (xs ++ ys) = (restGrouped xs && restGrouped ys) := by
  induction xs with
  | nil => rfl
  | cons x xs ih => simp [restGrouped, ih, Bool.and_assoc]

end Tree

end SqlDialects.Grouping
