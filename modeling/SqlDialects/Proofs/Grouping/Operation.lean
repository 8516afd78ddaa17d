-- SUMMARY: Operations as they are translated, the parentheses they are written with, and which of them keep their grouping.
import Mathlib
import SqlDialects.Value.Basic
import SqlDialects.Proofs.Grouping.Syntax

/-!
# Operations

An operation is what an expression of columns and numbers says, without regard to
parentheses. It is written with few of them: around an operation between two
operands that is an operand itself, except on the left of the same operator;
around the operand of `NOT`; and behind a sign around what starts with a minus.

That is not always enough. `NOT`, `IS NULL` and a chain of one comparison are
written without parentheses where they need some, and what is written then is
grouped otherwise or not grouped at all.
-/

namespace SqlDialects

/-! ## Expressions up to parentheses -/

mutual

/-- An expression without its parentheses. -/
def Expr.bare : Expr → Expr
  | .paren e => e.bare
  | .call name args distinct => .call name (bareAll args) distinct
  | .binary op left right => .binary op left.bare right.bare
  | .unary op operand => .unary op operand.bare
  | .suffixed operand op => .suffixed operand.bare op
  | .cast e typeName => .cast e.bare typeName
  | .caseWhen whens none => .caseWhen (bareWhens whens) none
  | .caseWhen whens (some otherwise) => .caseWhen (bareWhens whens) (some otherwise.bare)
  | .group items => .group (bareAll items)
  | .ordered e descending => .ordered e.bare descending
  | .withinGroup call orderBy => .withinGroup call.bare (bareAll orderBy)
  | .over e w => .over e.bare w.bare
  | e => e

def bareAll : List Expr → List Expr
  | [] => []
  | e :: es => e.bare :: bareAll es

def bareWhens : List (Expr × Expr) → List (Expr × Expr)
  | [] => []
  | (condition, result) :: rest => (condition.bare, result.bare) :: bareWhens rest

def Window.bare : Window → Window
  | ⟨partitionBy, orderBy, frame, name⟩ => ⟨bareAll partitionBy, bareAll orderBy, frame, name⟩

end

namespace Grouping

/-! ## Operations -/

/-- An operation on columns, whole numbers and truth values. Membership is in at
    least one item. -/
inductive Operation where
  | column (name : String) (table : Option String)
  | whole (n : Int)
  | truth (b : Bool)
  | neg (x : Operation)
  | not (x : Operation)
  | binary (op : Operator) (left right : Operation)
  | isNull (x : Operation)
  | among (x first : Operation) (rest : List Operation)

namespace Operation

mutual

/-- The expression an operation is translated to. -/
def expr : Operation → Expr
  | column name table => .ident name table
  | whole n => .literal (.whole n)
  | truth b => .literal (.bool b)
  | neg x => .unary "-" x.expr
  | not x => .unary "NOT" (.paren x.expr)
  | binary op left right => .binary op.text left.expr right.expr
  | isNull x => .suffixed x.expr "IS NULL"
  | among x first rest => .binary "IN" x.expr (.group (first.expr :: exprAll rest))

def exprAll : List Operation → List Expr
  | [] => []
  | x :: xs => x.expr :: exprAll xs

end

mutual

/-- The names of columns and tables, in the order of the operation. -/
def names : Operation → List String
  | column name none => [name]
  | column name (some table) => [table, name]
  | whole _ => []
  | truth _ => []
  | neg x => x.names
  | not x => x.names
  | binary _ left right => left.names ++ right.names
  | isNull x => x.names
  | among x first rest => x.names ++ (first.names ++ namesAll rest)

def namesAll : List Operation → List String
  | [] => []
  | x :: xs => x.names ++ namesAll xs

end

mutual

/-- The whole numbers of an operation. -/
def wholes : Operation → List Int
  | column .. => []
  | whole n => [n]
  | truth _ => []
  | neg x => x.wholes
  | not x => x.wholes
  | binary _ left right => left.wholes ++ right.wholes
  | isNull x => x.wholes
  | among x first rest => x.wholes ++ (first.wholes ++ wholesAll rest)

def wholesAll : List Operation → List Int
  | [] => []
  | x :: xs => x.wholes ++ wholesAll xs

end

/-- An operation between two operands; a list counts as one. -/
def isTwoSided : Operation → Bool
  | binary .. => true
  | among .. => true
  | _ => false

def isBinary : Operation → Bool
  | binary .. => true
  | _ => false

def isNot : Operation → Bool
  | not _ => true
  | _ => false

def isMissingTest : Operation → Bool
  | isNull _ => true
  | _ => false

def isPositive : Operation → Bool
  | whole (.ofNat (_ + 1)) => true
  | _ => false

/-- An operation by the operator. -/
def isBy (op : Operator) : Operation → Bool
  | binary inner .. => inner = op
  | _ => false

/-- An operation between two operands by another operator. -/
def isOther (op : Operator) : Operation → Bool
  | binary inner .. => inner ≠ op
  | among .. => true
  | _ => false

end Operation

/-! ## Layout -/

def Tree.wrapIf (condition : Bool) (x : Tree) : Tree := if condition then .paren x else x

/-- The lexemes of a tree start with a minus. -/
def Tree.startsMinus (x : Tree) : Bool := x.yield.head? == some (.op .sub)

namespace Operation

mutual

/-- An operation with the parentheses it is written with. -/
def layout : Operation → Tree
  | column name table => .column name table
  | whole n => .whole n
  | truth b => .truth b
  | neg x => .neg (x.layout.wrapIf (x.isTwoSided || x.layout.startsMinus))
  | not x => .not (.paren x.layout)
  | binary op left right =>
    .binary op (left.layout.wrapIf (left.isOther op)) (right.layout.wrapIf right.isTwoSided)
  | isNull x => .isNull (x.layout.wrapIf x.isTwoSided)
  | among x first rest => .among (x.layout.wrapIf x.isBinary) first.layout (layoutAll rest)

def layoutAll : List Operation → List Tree
  | [] => []
  | x :: xs => x.layout :: layoutAll xs

end

/-- A `NOT` at the right end that no parenthesis closes. -/
def endsInNot : Operation → Bool
  | not _ => true
  | neg x => x.isNot
  | binary _ _ right => !right.isTwoSided && right.endsInNot
  | _ => false

mutual

/-- No operand of an operation needs parentheses it is written without:

    * a comparison is no left operand of the same comparison;
    * what ends in a `NOT` is no left operand of a comparison or of arithmetic, and
      is not looked for in a list or tested for null, unless in parentheses;
    * `IS NULL` is no right operand of a comparison or of arithmetic, and stands
      behind a sign only in parentheses;
    * a sign is in front of no positive number. -/
def keepsGrouping : Operation → Bool
  | column .. => true
  | whole _ => true
  | truth _ => true
  | neg x => (!x.isMissingTest || x.layout.startsMinus) && !x.isPositive && x.keepsGrouping
  | not x => x.keepsGrouping
  | binary op left right =>
    !(op.isComparison && left.isBy op) &&
      (op.isLogical || (left.isOther op || !left.endsInNot) && !right.isMissingTest) &&
      left.keepsGrouping && right.keepsGrouping
  | isNull x => (x.isTwoSided || !x.endsInNot) && x.keepsGrouping
  | among x first rest =>
    (x.isBinary || !x.endsInNot) && x.keepsGrouping && first.keepsGrouping && keepGrouping rest

/-- All of the operations keep their grouping. -/
def keepGrouping : List Operation → Bool
  | [] => true
  | x :: xs => x.keepsGrouping && keepGrouping xs

end

end Operation

/-! ## Levels of layouts -/

open SqlDialects.Grouping.Tree (closedLevel yieldRest restGrouped)

namespace Tree

@[simp] theorem leftLevel_wrapIf_true (x : Tree) : (x.wrapIf true).leftLevel = closedLevel := rfl

@[simp] theorem rightLevel_wrapIf_true (x : Tree) : (x.wrapIf true).rightLevel = closedLevel := rfl

@[simp] theorem isPositive_wrapIf_true (x : Tree) : (x.wrapIf true).isPositive = false := rfl

@[simp] theorem wrapIf_false (x : Tree) : x.wrapIf false = x := rfl

theorem le_rightLevel_wrapIf {bound : Nat} (hbound : bound ≤ closedLevel) (condition : Bool)
    {x : Tree} (h : x.rightLevel = closedLevel) : bound ≤ (x.wrapIf condition).rightLevel := by
  cases condition with
  | true => exact hbound
  | false => exact h ▸ hbound

@[simp] theorem isGrouped_wrapIf (condition : Bool) (x : Tree) :
    (x.wrapIf condition).isGrouped = x.isGrouped := by
  cases condition <;> rfl

end Tree

namespace Operation

/-- What is not between two operands is open on the left only as a test for null. -/
theorem leftLevel_layout {o : Operation} (h : o.isTwoSided = false) :
    o.layout.leftLevel = if o.isMissingTest then 4 else closedLevel := by
  cases o with
  | isNull x =>
    cases hx : x.isTwoSided with
    | true => simp [layout, Tree.leftLevel, hx, isMissingTest, closedLevel]
    | false =>
      -- a test of a test is as open as the inner one
      have hlevel : 4 ≤ x.layout.leftLevel := by
        rw [leftLevel_layout hx]
        split <;> decide
      simp [layout, Tree.leftLevel, hx, isMissingTest, hlevel]
  | binary op left right => cases h
  | among x first rest => cases h
  | _ => rfl

/-- What is not between two operands is open on the right only to a `NOT` and a sign. -/
theorem rightLevel_layout {o : Operation} (h : o.isTwoSided = false) :
    if o.endsInNot then o.layout.rightLevel = 3 else 9 ≤ o.layout.rightLevel := by
  cases o with
  | neg x =>
    cases x with
    | not y => rfl
    | neg y => exact Nat.le_refl 9
    | binary op left right => exact Nat.le_refl 9
    | among y first rest => exact Nat.le_refl 9
    | _ => exact Nat.le_min.2 ⟨Nat.le_refl 9, Tree.le_rightLevel_wrapIf (Nat.le_succ 9) _ rfl⟩
  | not x => rfl
  | binary op left right => cases h
  | among x first rest => cases h
  | _ => exact Nat.le_succ 9

/-- An operation between two operands is open on the right to its own operator, and
    to a `NOT` at its end. -/
theorem rightLevel_layout_binary (op : Operator) (left right : Operation) :
    (layout (.binary op left right)).rightLevel =
      if (binary op left right).endsInNot then min op.level 3 else op.level := by
  have hop := op.level_lt
  cases hright : right.isTwoSided with
  | true => simp [layout, endsInNot, Tree.rightLevel, hright, closedLevel]; omega
  | false =>
    have hlevel := rightLevel_layout hright
    simp only [layout, endsInNot, Tree.rightLevel, hright, Tree.wrapIf_false, Bool.not_false,
      Bool.true_and]
    split at hlevel
    next hnot => simp [hnot, hlevel]
    next hnot => simp [hnot]; omega

/-! ## Grouping -/

theorem isBy_of_not_twoSided {o : Operation} (h : o.isTwoSided = false) (op : Operator) :
    o.isBy op = false ∧ o.isOther op = false := by
  cases o with
  | binary inner left right => cases h
  | among x first rest => cases h
  | _ => exact ⟨rfl, rfl⟩

/-- A left operand stays with its operator, in the parentheses it has. -/
theorem leftBound_le_rightLevel_iff (op : Operator) (left : Operation) :
    op.leftBound ≤ (left.layout.wrapIf (left.isOther op)).rightLevel ↔
      (!(op.isComparison && left.isBy op) &&
        (op.isLogical || (left.isOther op || !left.endsInNot))) = true := by
  have hclosed : op.leftBound ≤ closedLevel := Nat.le_succ_of_le op.leftBound_le
  cases hsides : left.isTwoSided with
  | false =>
    obtain ⟨hby, hother⟩ := isBy_of_not_twoSided hsides op
    have hlevel := rightLevel_layout hsides
    rw [hby, hother, Tree.wrapIf_false]
    cases hnot : left.endsInNot with
    | true =>
      rw [hnot, if_pos rfl] at hlevel
      rw [hlevel, op.leftBound_le_three_iff]
      simp
    | false =>
      rw [hnot, if_neg Bool.false_ne_true] at hlevel
      simp [Nat.le_trans op.leftBound_le hlevel]
  | true =>
    cases left with
    | binary inner l r =>
      -- only a left operand of the same operator is written without parentheses
      by_cases hop : inner = op
      · subst hop
        have hlogical : inner.isLogical = true → inner.isComparison = false := by
          cases inner <;> decide
        rw [show (binary inner l r).isOther inner = false by simp [isOther], Tree.wrapIf_false,
          rightLevel_layout_binary]
        split
        next hnot =>
          simp [isBy, hnot, inner.leftBound_le_level_iff, inner.leftBound_le_three_iff]
        next hnot => simp [isBy, hnot, inner.leftBound_le_level_iff]
      · simp [isBy, isOther, hop, hclosed]
    | among x first rest => simp [isBy, isOther, hclosed]
    | _ => cases hsides

/-- A right operand stays with its operator, in the parentheses it has. -/
theorem level_lt_leftLevel_iff (op : Operator) (right : Operation) :
    op.level < (right.layout.wrapIf right.isTwoSided).leftLevel ↔
      (op.isLogical || !right.isMissingTest) = true := by
  have hclosed : op.level < closedLevel := Nat.lt_succ_of_lt op.level_lt
  cases hsides : right.isTwoSided with
  | false =>
    rw [Tree.wrapIf_false, leftLevel_layout hsides]
    cases right.isMissingTest with
    | true => simp [op.level_lt_four_iff]
    | false => simp [hclosed]
  | true =>
    have hmissing : right.isMissingTest = false := by
      cases right with
      | isNull x => cases hsides
      | _ => rfl
    simp [hmissing, hclosed]

/-- What stands in front of `IS NULL` or a list stays with it, unless it ends in a
    `NOT` that no parenthesis closes. -/
theorem lt_rightLevel {o : Operation} {bound : Nat} {wrapped : Bool} (hlow : 3 ≤ bound)
    (hhigh : bound < 9) (h : o.isBinary = true → wrapped = true) :
    decide (bound < (o.layout.wrapIf wrapped).rightLevel) = (wrapped || !o.endsInNot) := by
  have hclosed : bound < closedLevel := Nat.lt_succ_of_lt hhigh
  cases wrapped with
  | true => simp [hclosed]
  | false =>
    rw [Tree.wrapIf_false, Bool.false_or]
    cases hsides : o.isTwoSided with
    | true =>
      cases o with
      | binary op left right => cases h rfl
      | among x first rest => exact decide_eq_true hclosed
      | _ => cases hsides
    | false =>
      have hlevel := rightLevel_layout hsides
      cases hnot : o.endsInNot with
      | true =>
        rw [hnot, if_pos rfl] at hlevel
        simp [hlevel, hlow]
      | false =>
        rw [hnot, if_neg Bool.false_ne_true] at hlevel
        simp [Nat.lt_of_lt_of_le hhigh hlevel]

theorem isPositive_layout (o : Operation) : o.layout.isPositive = o.isPositive := by
  cases o with
  | whole n =>
    cases n with
    | ofNat n => cases n <;> rfl
    | negSucc n => rfl
  | _ => rfl

/-- A number that a sign would take does not start with one. -/
theorem not_startsMinus_of_isPositive {o : Operation} (h : o.isPositive = true) :
    o.isTwoSided = false ∧ o.isMissingTest = false ∧ o.layout.startsMinus = false := by
  cases o with
  | whole n =>
    cases n with
    | ofNat n => exact ⟨rfl, rfl, rfl⟩
    | negSucc n => cases h
  | _ => cases h

/-- The operand of a sign stays with it, in the parentheses it has. -/
theorem sign_iff (x : Operation) :
    (9 < (x.layout.wrapIf (x.isTwoSided || x.layout.startsMinus)).leftLevel ∧
        (x.layout.wrapIf (x.isTwoSided || x.layout.startsMinus)).isPositive = false) ↔
      ((!x.isMissingTest || x.layout.startsMinus) && !x.isPositive) = true := by
  cases hpositive : x.isPositive with
  | true =>
    obtain ⟨hsides, _, hminus⟩ := not_startsMinus_of_isPositive hpositive
    simp [hsides, hminus, isPositive_layout, hpositive]
  | false =>
    cases hsides : x.isTwoSided with
    | true =>
      have hmissing : x.isMissingTest = false := by
        cases x with
        | isNull y => cases hsides
        | _ => rfl
      simp [hmissing, closedLevel]
    | false =>
      cases hminus : x.layout.startsMinus with
      | true => simp [closedLevel]
      | false =>
        cases hmissing : x.isMissingTest <;>
          simp [isPositive_layout, hpositive, leftLevel_layout hsides, hmissing, closedLevel]

mutual

/-- An operation is written as a grouped tree exactly when it keeps its grouping. -/
theorem isGrouped_layout (o : Operation) : o.layout.isGrouped = o.keepsGrouping := by
  cases o with
  | column name table => rfl
  | whole n => rfl
  | truth b => rfl
  | neg x =>
    have hsign := sign_iff x
    rw [Bool.eq_iff_iff]
    simp only [layout, Tree.isGrouped, keepsGrouping, Tree.isGrouped_wrapIf, isGrouped_layout x,
      Bool.and_eq_true _ x.keepsGrouping, ← hsign]
    simp
  | not x =>
    simp [layout, Tree.isGrouped, keepsGrouping, Tree.leftLevel, closedLevel, isGrouped_layout x]
  | binary op left right =>
    have hleft := leftBound_le_rightLevel_iff op left
    have hright := level_lt_leftLevel_iff op right
    rw [Bool.eq_iff_iff]
    simp only [layout, Tree.isGrouped, Tree.isGrouped_wrapIf, isGrouped_layout left,
      isGrouped_layout right, Bool.and_eq_true, decide_eq_true_eq, hleft, hright]
    cases hlogical : op.isLogical <;> simp [keepsGrouping, hlogical, and_assoc]
  | isNull x =>
    have hsides : x.isBinary = true → x.isTwoSided = true := by
      cases x <;> simp [isBinary, isTwoSided]
    rw [layout, Tree.isGrouped, Tree.isGrouped_wrapIf, isGrouped_layout x, keepsGrouping,
      lt_rightLevel (by decide) (by decide) hsides]
  | among x first rest =>
    rw [layout, Tree.isGrouped, Tree.isGrouped_wrapIf, isGrouped_layout x, isGrouped_layout first,
      restGrouped_layoutAll rest, keepsGrouping, lt_rightLevel (by decide) (by decide) id]

theorem restGrouped_layoutAll (xs : List Operation) :
    restGrouped (layoutAll xs) = keepGrouping xs := by
  cases xs with
  | nil => rfl
  | cons x xs =>
    rw [layoutAll, restGrouped, keepGrouping, isGrouped_layout x, restGrouped_layoutAll xs]

end

end Operation

end Grouping

end SqlDialects
