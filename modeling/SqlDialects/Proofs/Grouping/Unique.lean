-- SUMMARY: A tree is known by its lexemes and its operation: parentheses have one place only.
import Mathlib
import SqlDialects.Proofs.Grouping.Operation

/-!
# Trees of one operation

Two trees of one operation that have the same lexemes are the same tree, grouped
or not. What stands in front of an operator is known by how many lexemes other
than parentheses it has, and parentheses around a whole tree are known because
those inside it are balanced.
-/

namespace SqlDialects.Grouping

open SqlDialects.Grouping.Tree (yieldRest)

/-! ## The operation of a tree -/

namespace Tree

mutual

/-- A tree without its parentheses. -/
def strip : Tree → Operation
  | column name table => .column name table
  | whole n => .whole n
  | truth b => .truth b
  | paren x => x.strip
  | neg x => .neg x.strip
  | not x => .not x.strip
  | binary op left right => .binary op left.strip right.strip
  | isNull x => .isNull x.strip
  | among x first rest => .among x.strip first.strip (stripAll rest)

def stripAll : List Tree → List Operation
  | [] => []
  | x :: xs => x.strip :: stripAll xs

end

mutual

/-- The expression of a tree, with its parentheses. -/
def expr : Tree → Expr
  | column name table => .ident name table
  | whole n => .literal (.whole n)
  | truth b => .literal (.bool b)
  | paren x => .paren x.expr
  | neg x => .unary "-" x.expr
  | not x => .unary "NOT" x.expr
  | binary op left right => .binary op.text left.expr right.expr
  | isNull x => .suffixed x.expr "IS NULL"
  | among x first rest => .binary "IN" x.expr (.group (first.expr :: exprAll rest))

def exprAll : List Tree → List Expr
  | [] => []
  | x :: xs => x.expr :: exprAll xs

end

theorem strip_wrapIf (condition : Bool) (x : Tree) : (x.wrapIf condition).strip = x.strip := by
  cases condition <;> rfl

mutual

theorem strip_layout (o : Operation) : o.layout.strip = o := by
  cases o with
  | among x first rest =>
    simp [Operation.layout, strip, strip_wrapIf, strip_layout x, strip_layout first,
      stripAll_layoutAll rest]
  | binary op left right =>
    simp [Operation.layout, strip, strip_wrapIf, strip_layout left, strip_layout right]
  | neg x => simp [Operation.layout, strip, strip_wrapIf, strip_layout x]
  | not x => simp [Operation.layout, strip, strip_layout x]
  | isNull x => simp [Operation.layout, strip, strip_wrapIf, strip_layout x]
  | _ => rfl

theorem stripAll_layoutAll (os : List Operation) : stripAll (Operation.layoutAll os) = os := by
  cases os with
  | nil => rfl
  | cons o os => rw [Operation.layoutAll, stripAll, strip_layout o, stripAll_layoutAll os]

end

mutual

/-- Up to parentheses, the expression of a tree is that of its operation. -/
theorem bare_expr (x : Tree) : x.expr.bare = x.strip.expr.bare := by
  cases x with
  | among x first rest =>
    simp [expr, strip, Operation.expr, Expr.bare, bareAll, bare_expr x, bare_expr first,
      bareAll_exprAll rest]
  | binary op left right =>
    simp [expr, strip, Operation.expr, Expr.bare, bare_expr left, bare_expr right]
  | paren x => rw [expr, strip, Expr.bare, bare_expr x]
  | neg x => simp [expr, strip, Operation.expr, Expr.bare, bare_expr x]
  | not x => simp [expr, strip, Operation.expr, Expr.bare, bare_expr x]
  | isNull x => simp [expr, strip, Operation.expr, Expr.bare, bare_expr x]
  | _ => rfl

theorem bareAll_exprAll (xs : List Tree) :
    bareAll (exprAll xs) = bareAll (Operation.exprAll (stripAll xs)) := by
  cases xs with
  | nil => rfl
  | cons x xs =>
    rw [exprAll, stripAll, Operation.exprAll, bareAll, bareAll, bare_expr x, bareAll_exprAll xs]

end

end Tree

namespace Operation

theorem text_ne_in (op : Operator) : op.text ≠ "IN" := by cases op <;> decide

theorem text_injective {op op' : Operator} (h : op.text = op'.text) : op = op' := by
  revert h
  cases op <;> cases op' <;> decide

mutual

/-- An operation is known by its expression, parentheses aside. -/
theorem eq_of_bare_eq {o o' : Operation} (h : o.expr.bare = o'.expr.bare) : o = o' := by
  cases o with
  | column name table =>
    cases o' with
    | column name' table' =>
      cases h
      rfl
    | _ => cases h
  | whole n =>
    cases o' with
    | whole n' =>
      cases h
      rfl
    | _ => cases h
  | truth b =>
    cases o' with
    | truth b' =>
      cases h
      rfl
    | _ => cases h
  | neg x =>
    cases o' with
    | neg x' => rw [eq_of_bare_eq (Expr.unary.inj h).2]
    | not x' => exact absurd (Expr.unary.inj h).1 (by decide)
    | _ => cases h
  | not x =>
    cases o' with
    | not x' => rw [eq_of_bare_eq (Expr.unary.inj h).2]
    | neg x' => exact absurd (Expr.unary.inj h).1 (by decide)
    | _ => cases h
  | binary op left right =>
    cases o' with
    | binary op' left' right' =>
      obtain ⟨hop, hleft, hright⟩ := Expr.binary.inj h
      rw [text_injective hop, eq_of_bare_eq hleft, eq_of_bare_eq hright]
    | among x' first' rest' => exact absurd (Expr.binary.inj h).1 (text_ne_in op)
    | _ => cases h
  | isNull x =>
    cases o' with
    | isNull x' => rw [eq_of_bare_eq (Expr.suffixed.inj h).1]
    | _ => cases h
  | among x first rest =>
    cases o' with
    | among x' first' rest' =>
      obtain ⟨_, hx, hitems⟩ := Expr.binary.inj h
      obtain ⟨hfirst, hrest⟩ := List.cons.inj (Expr.group.inj hitems)
      rw [eq_of_bare_eq hx, eq_of_bare_eq hfirst, eq_of_bareAll_eq hrest]
    | binary op' left' right' => exact absurd (Expr.binary.inj h).1.symm (text_ne_in op')
    | _ => cases h

theorem eq_of_bareAll_eq {os os' : List Operation}
    (h : bareAll (exprAll os) = bareAll (exprAll os')) : os = os' := by
  cases os with
  | nil =>
    cases os' with
    | nil => rfl
    | cons o' os' => cases h
  | cons o os =>
    cases os' with
    | nil => cases h
    | cons o' os' =>
      obtain ⟨ho, hos⟩ := List.cons.inj h
      rw [eq_of_bare_eq ho, eq_of_bareAll_eq hos]

end

end Operation

/-- A tree has the expression of an operation, parentheses aside, exactly when it is a
    tree of that operation. -/
theorem Tree.bare_eq_iff {x : Tree} {o : Operation} :
    x.expr.bare = o.expr.bare ↔ x.strip = o := by
  rw [Tree.bare_expr]
  constructor
  · exact Operation.eq_of_bare_eq
  · rintro rfl
    rfl

/-! ## Balance -/

/-- How many parentheses are open behind a lexeme, given how many are before it. -/
def Lexeme.step : Nat → Lexeme → Option Nat
  | d, .opening => some (d + 1)
  | 0, .closing => none
  | d + 1, .closing => some d
  | d, _ => some d

/-- How many parentheses are open behind some lexemes. -/
def depth (d : Nat) (w : List Lexeme) : Option Nat := w.foldlM Lexeme.step d

@[simp] theorem depth_nil (d : Nat) : depth d [] = some d := rfl

@[simp] theorem depth_cons (d : Nat) (l : Lexeme) (w : List Lexeme) :
    depth d (l :: w) = (Lexeme.step d l).bind fun d => depth d w := List.foldlM_cons

theorem depth_append (d : Nat) (v w : List Lexeme) :
    depth d (v ++ w) = (depth d v).bind fun d => depth d w := List.foldlM_append

/-- One more open parenthesis stays open. -/
theorem depth_succ {d k : Nat} {w : List Lexeme} (h : depth d w = some k) :
    depth (d + 1) w = some (k + 1) := by
  induction w generalizing d with
  | nil =>
    cases h
    rfl
  | cons l w ih =>
    cases l with
    | closing =>
      cases d with
      | zero => cases h
      | succ d => exact ih h
    | _ => exact ih h

namespace Tree

mutual

/-- The parentheses of a tree are balanced. -/
theorem depth_yield (x : Tree) (d : Nat) : depth d x.yield = some d := by
  cases x with
  | column name table => cases table <;> rfl
  | whole n => cases n <;> rfl
  | truth b => rfl
  | paren x => simp [yield, depth_append, Lexeme.step, depth_yield x]
  | neg x => exact depth_yield x d
  | not x => exact depth_yield x d
  | binary op left right =>
    simp [yield, depth_append, Lexeme.step, depth_yield left, depth_yield right]
  | isNull x => simp [yield, depth_append, Lexeme.step, depth_yield x]
  | among x first rest =>
    simp [yield, depth_append, Lexeme.step, depth_yield x, depth_yield first,
      depth_yieldRest rest]

theorem depth_yieldRest (xs : List Tree) (d : Nat) : depth d (yieldRest xs) = some d := by
  cases xs with
  | nil => rfl
  | cons x xs =>
    simp [yieldRest, depth_append, Lexeme.step, depth_yield x, depth_yieldRest xs]

end

theorem yield_ne_nil (x : Tree) : x.yield ≠ [] := by
  cases x with
  | column name table => cases table <;> simp [yield, columnLexemes]
  | whole n => cases n <;> simp [yield, wholeLexemes]
  | _ => simp [yield]

/-- What is balanced and starts with a parenthesis does not end inside of it. -/
theorem append_ne_paren {x z : Tree} {w : List Lexeme} (hw : w ≠ []) :
    x.yield ++ w ≠ (paren z).yield := by
  intro heq
  -- Both start with the outer parenthesis, which is closed where the first one ends; in
  -- the second one it is still open there, since the inside is balanced without it.
  obtain ⟨l, v, hx⟩ := List.exists_cons_of_ne_nil x.yield_ne_nil
  rw [hx, yield, List.cons_append, List.cons_append] at heq
  obtain ⟨rfl, hbody⟩ := List.cons.inj heq
  have hzero := depth_yield x 0
  have hinner := depth_yield z 0
  rw [← List.dropLast_concat_getLast hw, ← List.append_assoc] at hbody
  have hz := (List.append_inj' hbody rfl).1
  rw [← hz, depth_append] at hinner
  obtain ⟨k, hk, _⟩ := Option.bind_eq_some_iff.1 hinner
  rw [hx, depth_cons, Lexeme.step, Option.bind_some, depth_succ hk] at hzero
  cases hzero

def isParen : Tree → Bool
  | paren _ => true
  | _ => false

/-- Only a tree in parentheses starts with one that its last lexeme closes. -/
theorem yield_ne_paren {x z : Tree} (h : x.isParen = false) : x.yield ≠ (paren z).yield := by
  cases x with
  | column name table => cases table <;> simp [yield, columnLexemes]
  | whole n => cases n <;> simp [yield, wholeLexemes]
  | paren y => cases h
  | binary op left right => exact append_ne_paren (by simp)
  | isNull x => exact append_ne_paren (by simp)
  | among x first rest =>
    have hyield : (among x first rest).yield =
        x.yield ++ .among :: .opening :: (first.yield ++ yieldRest rest ++ [.closing]) := by
      simp [yield]
    rw [hyield]
    exact append_ne_paren (by simp)
  | _ => simp [yield]

theorem isParen_eq_of_yield_eq {x y : Tree} (h : x.yield = y.yield) : x.isParen = y.isParen := by
  cases x with
  | paren x =>
    cases y with
    | paren y => rfl
    | _ => exact absurd h.symm (yield_ne_paren rfl)
  | _ =>
    cases y with
    | paren y => exact absurd h (yield_ne_paren rfl)
    | _ => rfl

end Tree

/-! ## Lexemes that are no parentheses -/

/-- A lexeme that is no parenthesis. -/
def Lexeme.isSolid : Lexeme → Bool
  | .opening => false
  | .closing => false
  | _ => true

/-- How many lexemes are no parentheses. -/
def solidCount (w : List Lexeme) : Nat := w.countP Lexeme.isSolid

@[simp] theorem solidCount_nil : solidCount [] = 0 := rfl

@[simp] theorem solidCount_cons (l : Lexeme) (w : List Lexeme) :
    solidCount (l :: w) = solidCount w + if l.isSolid then 1 else 0 := List.countP_cons

@[simp] theorem solidCount_append (v w : List Lexeme) :
    solidCount (v ++ w) = solidCount v + solidCount w := List.countP_append

/-- A solid lexeme divides a row where the same number of solid lexemes is in front. -/
theorem eq_of_append_cons_eq {a b c d : List Lexeme} {l m : Lexeme} (hl : l.isSolid = true)
    (hm : m.isSolid = true) (hcount : solidCount a = solidCount c)
    (h : a ++ l :: b = c ++ m :: d) : a = c ∧ l = m ∧ b = d := by
  induction a generalizing c with
  | nil =>
    cases c with
    | nil =>
      obtain ⟨rfl, rfl⟩ := List.cons.inj h
      exact ⟨rfl, rfl, rfl⟩
    | cons n c =>
      obtain ⟨rfl, _⟩ := List.cons.inj h
      simp [hl] at hcount
  | cons k a ih =>
    cases c with
    | nil =>
      obtain ⟨rfl, _⟩ := List.cons.inj h
      simp [hm] at hcount
    | cons n c =>
      obtain ⟨rfl, htail⟩ := List.cons.inj h
      simp only [solidCount_cons] at hcount
      obtain ⟨rfl, hrest⟩ := ih (Nat.add_right_cancel hcount) htail
      exact ⟨rfl, hrest⟩

namespace Tree

theorem solidCount_wrapIf (condition : Bool) (x : Tree) :
    solidCount (x.wrapIf condition).yield = solidCount x.yield := by
  cases condition with
  | false => rfl
  | true => simp [wrapIf, yield, Lexeme.isSolid]

mutual

/-- The solid lexemes of a tree are those of its operation. -/
theorem solidCount_yield (x : Tree) : solidCount x.yield = solidCount x.strip.layout.yield := by
  cases x with
  | column name table => rfl
  | whole n => rfl
  | truth b => rfl
  | paren x =>
    rw [strip, ← solidCount_yield x]
    exact solidCount_wrapIf true x
  | neg x => simp [strip, Operation.layout, yield, solidCount_wrapIf, solidCount_yield x]
  | not x => simp [strip, Operation.layout, yield, Lexeme.isSolid, solidCount_yield x]
  | binary op left right =>
    simp [strip, Operation.layout, yield, solidCount_wrapIf, solidCount_yield left,
      solidCount_yield right]
  | isNull x => simp [strip, Operation.layout, yield, solidCount_wrapIf, solidCount_yield x]
  | among x first rest =>
    simp [strip, Operation.layout, yield, solidCount_wrapIf, solidCount_yield x,
      solidCount_yield first, solidCount_yieldRest rest]

theorem solidCount_yieldRest (xs : List Tree) :
    solidCount (yieldRest xs) = solidCount (yieldRest (Operation.layoutAll (stripAll xs))) := by
  cases xs with
  | nil => rfl
  | cons x xs =>
    simp [stripAll, Operation.layoutAll, yieldRest, solidCount_yield x, solidCount_yieldRest xs]

end

/-- Trees of one operation have equally many solid lexemes. -/
theorem solidCount_eq {x y : Tree} (h : x.strip = y.strip) :
    solidCount x.yield = solidCount y.yield := by
  rw [solidCount_yield x, h, ← solidCount_yield y]

/-! ## Uniqueness -/

/-- The first item of a list ends where the next one starts. -/
theorem eq_of_append_yieldRest_eq {x y : Tree} {xs ys : List Tree} (hstrip : x.strip = y.strip)
    (hstrips : stripAll xs = stripAll ys)
    (h : x.yield ++ yieldRest xs = y.yield ++ yieldRest ys) :
    x.yield = y.yield ∧ yieldRest xs = yieldRest ys := by
  cases xs with
  | nil =>
    cases ys with
    | nil => exact ⟨by simpa [yieldRest] using h, rfl⟩
    | cons y' ys => cases hstrips
  | cons x' xs =>
    cases ys with
    | nil => cases hstrips
    | cons y' ys =>
      obtain ⟨hyield, _⟩ := eq_of_append_cons_eq rfl rfl (solidCount_eq hstrip) h
      rw [hyield] at h
      exact ⟨hyield, List.append_cancel_left h⟩

mutual

/-- Trees of one operation with the same lexemes are the same. -/
theorem eq_of_strip_eq {x y : Tree} (hstrip : x.strip = y.strip) (hyield : x.yield = y.yield) :
    x = y := by
  -- An operand is cut out by the operation alone; parentheses around it are not, so
  -- they are told apart by the lexemes first.
  have hparen := isParen_eq_of_yield_eq hyield
  cases x with
  | paren x =>
    cases y with
    | paren y =>
      have hinner : x.yield = y.yield := List.append_cancel_right (List.cons.inj hyield).2
      rw [eq_of_strip_eq (x := x) (y := y) hstrip hinner]
    | _ => cases hparen
  | column name table =>
    cases y with
    | paren y => cases hparen
    | column name' table' =>
      cases hstrip
      rfl
    | _ => cases hstrip
  | whole n =>
    cases y with
    | paren y => cases hparen
    | whole n' =>
      cases hstrip
      rfl
    | _ => cases hstrip
  | truth b =>
    cases y with
    | paren y => cases hparen
    | truth b' =>
      cases hstrip
      rfl
    | _ => cases hstrip
  | neg x =>
    cases y with
    | paren y => cases hparen
    | neg y => rw [eq_of_strip_eq (Operation.neg.inj hstrip) (List.cons.inj hyield).2]
    | _ => cases hstrip
  | not x =>
    cases y with
    | paren y => cases hparen
    | not y => rw [eq_of_strip_eq (Operation.not.inj hstrip) (List.cons.inj hyield).2]
    | _ => cases hstrip
  | binary op left right =>
    cases y with
    | paren y => cases hparen
    | binary op' left' right' =>
      obtain ⟨rfl, hl, hr⟩ := Operation.binary.inj hstrip
      obtain ⟨hleft, _, hright⟩ := eq_of_append_cons_eq rfl rfl (solidCount_eq hl) hyield
      rw [eq_of_strip_eq hl hleft, eq_of_strip_eq hr hright]
    | _ => cases hstrip
  | isNull x =>
    cases y with
    | paren y => cases hparen
    | isNull y =>
      rw [eq_of_strip_eq (Operation.isNull.inj hstrip) (List.append_cancel_right hyield)]
    | _ => cases hstrip
  | among x first rest =>
    cases y with
    | paren y => cases hparen
    | among y first' rest' =>
      obtain ⟨hx, hf, hr⟩ := Operation.among.inj hstrip
      simp only [yield, List.append_assoc, List.cons_append] at hyield
      obtain ⟨hxy, _, hitems⟩ := eq_of_append_cons_eq rfl rfl (solidCount_eq hx) hyield
      have hlist := (List.cons.inj hitems).2
      rw [← List.append_assoc, ← List.append_assoc first'.yield] at hlist
      obtain ⟨hfirst, hrest⟩ := eq_of_append_yieldRest_eq hf hr (List.append_cancel_right hlist)
      rw [eq_of_strip_eq hx hxy, eq_of_strip_eq hf hfirst, eq_of_stripAll_eq hr hrest]
    | _ => cases hstrip

theorem eq_of_stripAll_eq {xs ys : List Tree} (hstrips : stripAll xs = stripAll ys)
    (hyields : yieldRest xs = yieldRest ys) : xs = ys := by
  cases xs with
  | nil =>
    cases ys with
    | nil => rfl
    | cons y ys => cases hstrips
  | cons x xs =>
    cases ys with
    | nil => cases hstrips
    | cons y ys =>
      obtain ⟨hstrip, htail⟩ := List.cons.inj hstrips
      obtain ⟨hyield, hrest⟩ := eq_of_append_yieldRest_eq hstrip htail (List.cons.inj hyields).2
      rw [eq_of_strip_eq hstrip hyield, eq_of_stripAll_eq htail hrest]

end

end Tree

end SqlDialects.Grouping
