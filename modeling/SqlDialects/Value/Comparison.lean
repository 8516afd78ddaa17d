-- SUMMARY: When two values count as the same, and whether a number is below or above a value.
import SqlDialects.Error

/-!
# Comparing values

Two values are the same when they are built alike from scalars that stand for
the same value. They are compared part by part up to the first difference. A
column or a call compares with anything by building a comparison, which is not
false: next to one, every value counts as the same. A signaling NaN must not be
compared with a number, and stops the comparison when it comes to that.

Numbers and truth values have an order between them, and no other values have.
A NaN is in no order with any number; beside a decimal that is an error. A column
or a call builds a condition of every comparison, and a condition counts as true.
-/

namespace SqlDialects

-- ---------------------------------------------------------------------------
-- Sameness
-- ---------------------------------------------------------------------------

/-- Both answers are yes; the second counts only when the first is yes. -/
def both (first second : Except Error Bool) : Except Error Bool :=
  match first with
  | .ok true => second
  | answer => answer

@[simp] theorem both_ok (a b : Bool) : both (.ok a) (.ok b) = .ok (a && b) := by
  cases a <;> rfl

def Scalar.sameChecked (s t : Scalar) : Except Error Bool :=
  if s.isRefused t then .error (.lapse .undefinedOrder) else .ok (s.same t)

mutual

/-- Two values count as the same. Lists of different lengths never do; other
    sequences are gone through up to the end of the shorter one first. -/
def Value.same : Value → Value → Except Error Bool
  | .column .., _ => .ok true
  | .call .., _ => .ok true
  | _, .column .. => .ok true
  | _, .call .. => .ok true
  | .scalar a, .scalar b => a.sameChecked b
  | .list xs, .list ys => if xs.length = ys.length then sameValues xs ys else .ok false
  | .tuple xs, .tuple ys => sameValues xs ys
  | .fixed p, .fixed q => p.same q
  | .sql d, .sql e => d.same e
  | .window v, .window w => v.same w
  | _, _ => .ok false
termination_by structural x => x

def sameValues : List Value → List Value → Except Error Bool
  | [], [] => .ok true
  | x :: xs, y :: ys => both (x.same y) (sameValues xs ys)
  | _, _ => .ok false
termination_by structural x => x

def Expr.same : Expr → Expr → Except Error Bool
  | .literal v, .literal w => v.same w
  | .ident m t, .ident n u => .ok (m == n && t == u)
  | .keyword a, .keyword b => .ok (a == b)
  | .raw a, .raw b => .ok (a == b)
  | .star t, .star u => .ok (t == u)
  | .call m xs d, .call n ys e => both (.ok (m == n)) (both (sameExprs xs ys) (.ok (d == e)))
  | .binary a l r, .binary b m s => both (.ok (a == b)) (both (l.same m) (r.same s))
  | .unary a x, .unary b y => both (.ok (a == b)) (x.same y)
  | .suffixed x a, .suffixed y b => both (x.same y) (.ok (a == b))
  | .cast x s, .cast y t => both (x.same y) (.ok (s == t))
  | .paren x, .paren y => x.same y
  | .caseWhen vs none, .caseWhen ws none => sameWhens vs ws
  | .caseWhen vs (some x), .caseWhen ws (some y) => both (sameWhens vs ws) (x.same y)
  | .caseWhen vs none, .caseWhen ws (some (.stray w)) => both (sameWhens vs ws) (.ok w.isHost)
  | .caseWhen vs (some (.stray v)), .caseWhen ws none => both (sameWhens vs ws) (.ok v.isHost)
  | .caseWhen vs _, .caseWhen ws _ => both (sameWhens vs ws) (.ok false)
  | .group xs, .group ys => sameExprs xs ys
  | .ordered x a, .ordered y b => both (x.same y) (.ok (a == b))
  | .withinGroup x xs, .withinGroup y ys => both (x.same y) (sameExprs xs ys)
  | .over x v, .over y w => both (x.same y) (v.same w)
  | .stray v, .stray w => v.same w
  | .stray v, _ => .ok v.isHost
  | _, .stray w => .ok w.isHost
  | _, _ => .ok false
termination_by structural x => x

def sameExprs : List Expr → List Expr → Except Error Bool
  | [], [] => .ok true
  | x :: xs, y :: ys => both (x.same y) (sameExprs xs ys)
  | _, _ => .ok false
termination_by structural x => x

def sameWhens : List (Expr × Expr) → List (Expr × Expr) → Except Error Bool
  | [], [] => .ok true
  | (a, b) :: xs, (c, d) :: ys => both (both (a.same c) (b.same d)) (sameWhens xs ys)
  | _, _ => .ok false
termination_by structural x => x

def Window.same : Window → Window → Except Error Bool
  | ⟨p, o, none, m⟩, ⟨q, r, none, n⟩ =>
    both (both (sameExprs p q) (sameExprs o r)) (.ok (m == n))
  | ⟨p, o, some f, m⟩, ⟨q, r, some g, n⟩ =>
    both (both (sameExprs p q) (sameExprs o r)) (both (sameValues f g) (.ok (m == n)))
  | ⟨p, o, _, _⟩, ⟨q, r, _, _⟩ => both (both (sameExprs p q) (sameExprs o r)) (.ok false)
termination_by structural x => x

end

/-- Some candidate is found; they are looked at in order up to the first that is. -/
def anyOf (found : Value → Except Error Bool) : List Value → Except Error Bool
  | [] => .ok false
  | candidate :: rest => do
    if ← found candidate then return true else anyOf found rest

-- ---------------------------------------------------------------------------
-- Order
-- ---------------------------------------------------------------------------

namespace Number

/-- A number's place relative to a value is as asked. -/
def relates (n : Number) (v : Value) (accepts : Ordering → Bool) : Except Error Bool :=
  match v with
  | .scalar s =>
    match s.toNumber? with
    | some m =>
      match n.compare? m with
      | some order => .ok (accepts order)
      | none => if n.isDecimal || m.isDecimal then .error (.lapse .undefinedOrder) else .ok false
    | none => .error (.lapse .unordered)
  | v => if v.isHost then .ok true else .error (.lapse .unordered)

def isBelow (n : Number) (v : Value) : Except Error Bool := n.relates v (·.isLT)

def isAbove (n : Number) (v : Value) : Except Error Bool := n.relates v (·.isGT)

def isAtMost (n : Number) (v : Value) : Except Error Bool := n.relates v (·.isLE)

def isAtLeast (n : Number) (v : Value) : Except Error Bool := n.relates v (·.isGE)

/-- Between two numbers the order is that of the numbers they stand for. -/
theorem relates_number {n m : Number} {order : Ordering} (h : n.compare? m = some order)
    (accepts : Ordering → Bool) : n.relates (.number m) accepts = .ok (accepts order) := by
  simp [relates, Scalar.toNumber?, h]

end Number

end SqlDialects
