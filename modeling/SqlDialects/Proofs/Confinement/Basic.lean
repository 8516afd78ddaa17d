-- SUMMARY: Confined values and expressions: every word of SQL in them is one of the vocabulary, and no column or call is left.
import Mathlib
import SqlDialects.Rule.Basic
import SqlDialects.Proofs.Vocabulary

/-!
# Confinement

A value is *confined* when no column and no call stands anywhere in it, and every
SQL expression in it is built of the vocabulary's words alone. So what a caller
writes is found in literals and identifiers only, and what a literal holds is
confined again.

A *host tree* is what a caller writes without SQL of his own: scalars, sequences,
columns, calls and fixed patterns.
-/

namespace SqlDialects

/-! ## Values and expressions -/

mutual

def Value.isConfined : Value → Bool
  | .scalar _ => true
  | .list items => allConfined items
  | .tuple items => allConfined items
  | .column .. => false
  | .call .. => false
  | .fixed pattern => pattern.isConfined
  | .sql e => e.isConfined
  | .window w => w.isConfined

def allConfined : List Value → Bool
  | [] => true
  | v :: vs => v.isConfined && allConfined vs

/-- Every operator, function, type and keyword is a word of the vocabulary, and
    literals, operands and windows are confined. -/
def Expr.isConfined : Expr → Bool
  | .literal v => v.isConfined
  | .ident .. => true
  | .keyword word => Vocabulary.keywords.contains word
  | .raw _ => false
  | .star _ => true
  | .call name args _ => Vocabulary.functions.contains name && allConfinedExprs args
  | .binary op left right =>
    Vocabulary.binaryOperators.contains op && left.isConfined && right.isConfined
  | .unary op operand => Vocabulary.unaryOperators.contains op && operand.isConfined
  | .suffixed operand op => Vocabulary.suffixOperators.contains op && operand.isConfined
  | .cast e typeName => Vocabulary.castTypes.contains typeName && e.isConfined
  | .paren e => e.isConfined
  | .caseWhen whens none => allConfinedWhens whens
  | .caseWhen whens (some otherwise) => allConfinedWhens whens && otherwise.isConfined
  | .group items => allConfinedExprs items
  | .ordered e _ => e.isConfined
  | .withinGroup call orderBy => call.isConfined && allConfinedExprs orderBy
  | .over e w => e.isConfined && w.isConfined
  | .stray _ => false

def allConfinedExprs : List Expr → Bool
  | [] => true
  | e :: es => e.isConfined && allConfinedExprs es

def allConfinedWhens : List (Expr × Expr) → Bool
  | [] => true
  | (condition, result) :: rest =>
    condition.isConfined && result.isConfined && allConfinedWhens rest

def Window.isConfined : Window → Bool
  | ⟨partitionBy, orderBy, none, _⟩ => allConfinedExprs partitionBy && allConfinedExprs orderBy
  | ⟨partitionBy, orderBy, some bounds, _⟩ =>
    allConfinedExprs partitionBy && allConfinedExprs orderBy && allConfined bounds

end

mutual

/-- A value without SQL of the caller's own. -/
def Value.isHostTree : Value → Bool
  | .scalar _ => true
  | .list items => allHostTrees items
  | .tuple items => allHostTrees items
  | .column .. => true
  | .call _ args named => allHostTrees args && allNamedHostTrees named
  | .fixed pattern => pattern.isHostTree
  | .sql _ => false
  | .window _ => false

def allHostTrees : List Value → Bool
  | [] => true
  | v :: vs => v.isHostTree && allHostTrees vs

def allNamedHostTrees : List (String × Value) → Bool
  | [] => true
  | (_, v) :: rest => v.isHostTree && allNamedHostTrees rest

end

/-! ## Lists and windows -/

theorem allHostTrees_iff {vs : List Value} :
    allHostTrees vs = true ↔ ∀ v ∈ vs, v.isHostTree = true := by
  induction vs with
  | nil => simp [allHostTrees]
  | cons v vs ih => simp [allHostTrees, ih]

theorem allNamedHostTrees_iff {named : List (String × Value)} :
    allNamedHostTrees named = true ↔ ∀ n ∈ named, n.2.isHostTree = true := by
  induction named with
  | nil => simp [allNamedHostTrees]
  | cons n named ih => simp [allNamedHostTrees, ih]

@[simp] theorem Window.isConfined_eq (w : Window) :
    w.isConfined = (allConfinedExprs w.partitionBy && allConfinedExprs w.orderBy &&
      allConfined (w.frame.getD [])) := by
  obtain ⟨partitionBy, orderBy, frame, name⟩ := w
  cases frame with
  | none => exact (Bool.and_true _).symm
  | some bounds => rfl

/-! ## Builders -/

@[simp] theorem Value.isConfined_toExpr (v : Value) : v.toExpr.isConfined = v.isConfined := by
  cases v <;> rfl

theorem allConfinedExprs_map_toExpr (vs : List Value) :
    allConfinedExprs (vs.map Value.toExpr) = allConfined vs := by
  induction vs with
  | nil => rfl
  | cons v vs ih => exact congrArg₂ and v.isConfined_toExpr ih

theorem Expr.isConfined_callOf {name : String} {args : List Value}
    (hname : name ∈ Vocabulary.functions) (hargs : allConfined args = true) :
    (Expr.callOf name args).isConfined = true := by
  have hcall : (Expr.callOf name args).isConfined =
    (Vocabulary.functions.contains name && allConfinedExprs (args.map Value.toExpr)) := rfl
  simp [hcall, allConfinedExprs_map_toExpr, hname, hargs]

theorem Expr.isConfined_binary {op : String} {left right : Expr}
    (hop : op ∈ Vocabulary.binaryOperators) (hleft : left.isConfined = true)
    (hright : right.isConfined = true) : (Expr.binary op left right).isConfined = true := by
  have hbinary : (Expr.binary op left right).isConfined =
    (Vocabulary.binaryOperators.contains op && left.isConfined && right.isConfined) := rfl
  simp [hbinary, hop, hleft, hright]

theorem Expr.isConfined_binaryOf {op : String} {left right : Value}
    (hop : op ∈ Vocabulary.binaryOperators) (hleft : left.isConfined = true)
    (hright : right.isConfined = true) : (Expr.binaryOf op left right).isConfined = true :=
  Expr.isConfined_binary hop (by simpa using hleft) (by simpa using hright)

theorem Expr.isConfined_extract {part : String} {v : Value} (hpart : part ∈ Vocabulary.keywords)
    (hv : v.isConfined = true) : (Expr.extract part v).isConfined = true := by
  have hfrom : "FROM" ∈ Vocabulary.binaryOperators := by decide
  have hextract : "EXTRACT" ∈ Vocabulary.functions := by decide
  simp [Expr.extract, Expr.isConfined, allConfinedExprs, hpart, hv, hfrom, hextract]

theorem Expr.isConfined_negate {v : Value} (hv : v.isConfined = true) :
    (Expr.negate v).isConfined = true := by
  have hnot : "NOT" ∈ Vocabulary.unaryOperators := by decide
  have hnegate : (Expr.negate v).isConfined =
    (Vocabulary.unaryOperators.contains "NOT" && v.toExpr.isConfined) := rfl
  simp [hnegate, hv, hnot]

/-- What is known when translating is confined inside its literal. -/
theorem Value.isConfined_staticValue {v : Value} (hv : v.isConfined = true) :
    v.staticValue.isConfined = true := by
  cases v with
  | sql e => cases e <;> exact hv
  | _ => exact hv

/-- A confined value is no column and no call. -/
theorem Value.not_isHost_of_isConfined {v : Value} (hv : v.isConfined = true) :
    v.isHost = false := by
  cases v with
  | column => cases hv
  | call => cases hv
  | _ => rfl

end SqlDialects
