-- SUMMARY: The two ways to say that expressions match are true for the same values, and differ, as unknown and false, where only one of them is NULL.
import SqlDialects.Statement.Row

/-!
# Conditions that match

A condition is true, false or unknown. Values are equal or not unless one of them is
NULL, and whether a value is NULL is always known. The form built from these and the
form of one operator are true for the same values. They have the same truth value
unless exactly one of the values is NULL, where the one is unknown and the other false.
Negation tells these apart, and conjunction and disjunction alone do not.
-/

namespace SqlDialects

/-! ## Truth values -/

/-- A truth value, `none` where it is unknown. -/
abbrev Truth := Option Bool

namespace Truth

def not : Truth → Truth := Option.map (! ·)

def and : Truth → Truth → Truth
  | some false, _ => some false
  | _, some false => some false
  | some true, some true => some true
  | _, _ => none

def or : Truth → Truth → Truth
  | some true, _ => some true
  | _, some true => some true
  | some false, some false => some false
  | _, _ => none

@[simp] theorem and_some (b c : Bool) : and (some b) (some c) = some (b && c) := by
  cases b <;> cases c <;> rfl

@[simp] theorem or_some (b c : Bool) : or (some b) (some c) = some (b || c) := by
  cases b <;> cases c <;> rfl

variable {p q : Truth}

@[simp] theorem unknown_or_false : or none (some false) = none := rfl

@[simp] theorem unknown_or_true : or none (some true) = some true := rfl

theorem and_eq_true_iff : p.and q = some true ↔ p = some true ∧ q = some true := by
  rcases p with _ | _ | _ <;> rcases q with _ | _ | _ <;> decide

theorem or_eq_true_iff : p.or q = some true ↔ p = some true ∨ q = some true := by
  rcases p with _ | _ | _ <;> rcases q with _ | _ | _ <;> decide

theorem not_inj : p.not = q.not ↔ p = q := by
  rcases p with _ | _ | _ <;> rcases q with _ | _ | _ <;> decide

end Truth

/-! ## Conditions -/

/-- The values of expressions, `none` for NULL, when two values are equal, and the truth
    of conditions that are left open. -/
structure Assignment (α : Type) where
  value : Expr → Option α
  equal : α → α → Bool
  condition : Expr → Truth

namespace Assignment

variable {α : Type} (a : Assignment α)

/-- Equality of values is unknown where one of them is NULL. -/
def equals (x y : Expr) : Truth :=
  match a.value x, a.value y with
  | some v, some w => some (a.equal v w)
  | _, _ => none

/-- Not to be distinct is always known. Two NULLs are not distinct. -/
def isNotDistinct (x y : Expr) : Bool :=
  match a.value x, a.value y with
  | some v, some w => a.equal v w
  | none, none => true
  | _, _ => false

def isNull (x : Expr) : Bool := (a.value x).isNone

/-- Both values are NULL, or neither is. -/
def AgreeOnNull (x y : Expr) : Prop := a.isNull x = a.isNull y

instance (x y : Expr) : Decidable (a.AgreeOnNull x y) := inferInstanceAs (Decidable (_ = _))

variable {a} {x y : Expr}

/-- A value and NULL are distinct. -/
theorem isNotDistinct_eq_false (h : ¬a.AgreeOnNull x y) : a.isNotDistinct x y = false := by
  rw [AgreeOnNull, isNull, isNull] at h
  rw [isNotDistinct]
  cases hx : a.value x <;> cases hy : a.value y <;> simp_all

/-- To be equal, or else both NULL, is not to be distinct. Where one value is NULL alone,
    this is not known. -/
theorem equals_or_bothNull (x y : Expr) :
    (a.equals x y).or (Truth.and (some (a.isNull x)) (some (a.isNull y))) =
      if a.AgreeOnNull x y then some (a.isNotDistinct x y) else none := by
  by_cases h : a.AgreeOnNull x y
  · rw [if_pos h]
    rw [AgreeOnNull, isNull, isNull] at h
    rw [equals, isNotDistinct, isNull, isNull]
    cases hx : a.value x <;> cases hy : a.value y <;> simp_all
  · rw [if_neg h]
    rw [AgreeOnNull, isNull, isNull] at h
    rw [equals, isNull, isNull]
    cases hx : a.value x <;> cases hy : a.value y <;> simp_all

end Assignment

namespace Expr

variable {α : Type} (a : Assignment α)

/-- The truth of a condition. -/
def truth : Expr → Truth
  | .paren e => e.truth
  | .unary "NOT" e => e.truth.not
  | .suffixed e "IS NULL" => some (a.isNull e)
  | .binary "=" x y => a.equals x y
  | .binary "IS NOT DISTINCT FROM" x y => some (a.isNotDistinct x y)
  | .binary "AND" p q => p.truth.and q.truth
  | .binary "OR" p q => p.truth.or q.truth
  | e => a.condition e

variable (e p q x y : Expr)

@[simp] theorem truth_paren : (paren e).truth a = e.truth a := rfl

@[simp] theorem truth_not : (unary "NOT" e).truth a = (e.truth a).not := rfl

@[simp] theorem truth_isNull : (suffixed e "IS NULL").truth a = some (a.isNull e) := rfl

@[simp] theorem truth_equals : (binary "=" x y).truth a = a.equals x y := rfl

@[simp] theorem truth_isNotDistinct :
    (binary "IS NOT DISTINCT FROM" x y).truth a = some (a.isNotDistinct x y) := rfl

@[simp] theorem truth_and : (binary "AND" p q).truth a = (p.truth a).and (q.truth a) := rfl

@[simp] theorem truth_or : (binary "OR" p q).truth a = (p.truth a).or (q.truth a) := rfl

end Expr

/-! ## Matching -/

/-- Two conditions that are alike but for matches which fit, said in one form by the one
    and in the other form by the other. These stand under `NOT` only where it is crossed. -/
inductive Swapped (fits : Expr → Expr → Prop) (crossesNot : Bool) : Expr → Expr → Prop
  | swap {x y : Expr} (h : fits x y) :
      Swapped fits crossesNot (Backend.exprMatches x y .ansi) (Backend.exprMatches x y .postgres)
  | same (e : Expr) : Swapped fits crossesNot e e
  | paren {e e' : Expr} (h : Swapped fits crossesNot e e') :
      Swapped fits crossesNot (.paren e) (.paren e')
  | not {e e' : Expr} (hcrosses : crossesNot = true) (h : Swapped fits crossesNot e e') :
      Swapped fits crossesNot (.unary "NOT" e) (.unary "NOT" e')
  | and {p p' q q' : Expr} (hp : Swapped fits crossesNot p p') (hq : Swapped fits crossesNot q q') :
      Swapped fits crossesNot (.binary "AND" p q) (.binary "AND" p' q')
  | or {p p' q q' : Expr} (hp : Swapped fits crossesNot p p') (hq : Swapped fits crossesNot q q') :
      Swapped fits crossesNot (.binary "OR" p q) (.binary "OR" p' q')

section

variable {α : Type} {a : Assignment α} {e e' x y : Expr}

theorem truth_exprMatches_ansi (x y : Expr) :
    (Backend.exprMatches x y .ansi).truth a =
      if a.AgreeOnNull x y then some (a.isNotDistinct x y) else none := by
  simp only [Backend.exprMatches, Expr.truth_paren, Expr.truth_or, Expr.truth_and,
    Expr.truth_equals, Expr.truth_isNull]
  exact Assignment.equals_or_bothNull x y

theorem truth_exprMatches_postgres (x y : Expr) :
    (Backend.exprMatches x y .postgres).truth a = some (a.isNotDistinct x y) := by
  rw [Backend.exprMatches, Expr.truth_isNotDistinct]

theorem truth_exprMatches_eq_iff : (Backend.exprMatches x y .ansi).truth a =
    (Backend.exprMatches x y .postgres).truth a ↔ a.AgreeOnNull x y := by
  rw [truth_exprMatches_ansi, truth_exprMatches_postgres]
  split <;> simp [*]

/-- Both forms are true for the same values. -/
theorem truth_exprMatches_eq_true_iff : (Backend.exprMatches x y .ansi).truth a = some true ↔
    (Backend.exprMatches x y .postgres).truth a = some true := by
  rw [truth_exprMatches_ansi, truth_exprMatches_postgres]
  split
  next => rfl
  next h => simp [Assignment.isNotDistinct_eq_false h]

/-- Where no match is between NULL and a value, no connective tells the forms apart. -/
theorem Swapped.truth_eq {crossesNot : Bool} (h : Swapped a.AgreeOnNull crossesNot e e') :
    e.truth a = e'.truth a := by
  induction h with
  | swap h => exact truth_exprMatches_eq_iff.2 h
  | same => rfl
  | paren _ ih => exact ih
  | not _ _ ih => rw [Expr.truth_not, Expr.truth_not, ih]
  | and _ _ ihp ihq => rw [Expr.truth_and, Expr.truth_and, ihp, ihq]
  | or _ _ ihp ihq => rw [Expr.truth_or, Expr.truth_or, ihp, ihq]

/-- Whatever is matched, conditions that only negation would tell apart are true together. -/
theorem Swapped.truth_eq_true_iff {fits : Expr → Expr → Prop} (h : Swapped fits false e e') :
    e.truth a = some true ↔ e'.truth a = some true := by
  induction h with
  | swap => exact truth_exprMatches_eq_true_iff
  | same => rfl
  | paren _ ih => exact ih
  | not hcrosses => cases hcrosses
  | and _ _ ihp ihq =>
    rw [Expr.truth_and, Expr.truth_and, Truth.and_eq_true_iff, Truth.and_eq_true_iff, ihp, ihq]
  | or _ _ ihp ihq =>
    rw [Expr.truth_or, Expr.truth_or, Truth.or_eq_true_iff, Truth.or_eq_true_iff, ihp, ihq]

end

/-- The two forms of a match have the same truth value, and so have their negations, just
    where both values are NULL or neither is. Where all matches are such, one form can be
    swapped for the other anywhere in a condition. Where no `NOT` is crossed, any can be
    swapped without the condition being true for other values. -/
theorem exprMatches_swappable {α : Type} (a : Assignment α) :
    (∀ x y : Expr, ((Backend.exprMatches x y .ansi).truth a =
        (Backend.exprMatches x y .postgres).truth a ↔ a.AgreeOnNull x y) ∧
      ((Expr.unary "NOT" (Backend.exprMatches x y .ansi)).truth a =
        (Expr.unary "NOT" (Backend.exprMatches x y .postgres)).truth a ↔ a.AgreeOnNull x y)) ∧
    (∀ e e' : Expr, Swapped a.AgreeOnNull true e e' → e.truth a = e'.truth a) ∧
    ∀ e e' : Expr, Swapped (fun _ _ => True) false e e' →
      (e.truth a = some true ↔ e'.truth a = some true) := by
  refine ⟨fun x y => ⟨truth_exprMatches_eq_iff, ?_⟩, fun e e' h => h.truth_eq,
    fun e e' h => h.truth_eq_true_iff⟩
  rw [Expr.truth_not, Expr.truth_not, Truth.not_inj]
  exact truth_exprMatches_eq_iff

/-- Whole numbers have the values they write, and everything else is NULL. -/
def wholeNumbers : Assignment Int where
  value
    | .literal (.scalar (.number (.whole n))) => some n
    | _ => none
  equal := (· == ·)
  condition _ := none

theorem exprMatches_swappable_negated :
    let different (backend : Backend) := Expr.unary "NOT" (.binary "AND"
      (Backend.exprMatches (.literal (.whole 1)) (.literal (.whole 2)) backend)
      (Backend.exprMatches (.literal .null) (.literal .null) backend))
    (different .ansi).truth wholeNumbers = some true ∧
      (different .postgres).truth wholeNumbers = some true := by
  intro different
  have hswapped : Swapped wholeNumbers.AgreeOnNull true (different .ansi) (different .postgres) :=
    .not rfl (.and (.swap rfl) (.swap rfl))
  have htrue : (different .postgres).truth wholeNumbers = some true := rfl
  exact ⟨((exprMatches_swappable wholeNumbers).2.1 _ _ hswapped).trans htrue, htrue⟩

/-- Between NULL and a value, one form is unknown and the other false, so the negation of one
    is unknown and of the other true. -/
theorem exprMatches_not_swappable_null :
    let x := Expr.literal .null
    let y := Expr.literal (.whole 1)
    (Backend.exprMatches x y .ansi).truth wholeNumbers ≠
        (Backend.exprMatches x y .postgres).truth wholeNumbers ∧
      (Expr.unary "NOT" (Backend.exprMatches x y .ansi)).truth wholeNumbers ≠
        (Expr.unary "NOT" (Backend.exprMatches x y .postgres)).truth wholeNumbers := by
  decide

end SqlDialects
