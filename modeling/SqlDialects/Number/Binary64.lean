-- SUMMARY: Doubles as exact data: a sign and a place in the order of magnitudes, the number each one stands for, correct rounding of a ratio, and the arithmetic built on it.

/-!
# Doubles

A finite double is a sign and the place of its magnitude among all finite
magnitudes, counted from zero. Places below `2 ^ 52` are the subnormal
magnitudes; from there on every block of `2 ^ 52` places is one binade. So a
place determines the significand and the exponent, every place below the bound
is a double, and no invariant is left to state.

Arithmetic is done on the numbers the operands stand for and rounded once, to
the nearest double and to the even significand of two equally near ones.
-/

namespace SqlDialects

/-- Places of finite magnitudes: `2047` blocks of `2 ^ 52`. -/
abbrev Binary64.Place := Fin 9218868437227405312

/-- An IEEE 754 double. All quiet and signaling NaNs are one value. -/
inductive Binary64 where
  | finite (negative : Bool) (place : Binary64.Place)
  | infinite (negative : Bool)
  | nan
  deriving DecidableEq, Inhabited

namespace Binary64

-- ---------------------------------------------------------------------------
-- The number a place stands for
-- ---------------------------------------------------------------------------

/-- The significand of a magnitude: below `2 ^ 52` for the subnormal ones. -/
def significand (place : Nat) : Nat :=
  if place < Nat.pow 2 52 then place else Nat.pow 2 52 + place % Nat.pow 2 52

/-- The power of two that the significand is multiplied by. -/
def scale (place : Nat) : Int :=
  if place < Nat.pow 2 52 then -1074 else (place / Nat.pow 2 52 : Nat) - 1075

/-- A ratio of naturals, as its numerator and denominator, for `m · 2 ^ q`. -/
def ratio (m : Nat) (q : Int) : Nat × Nat :=
  if 0 ≤ q then (m * Nat.pow 2 q.toNat, 1) else (m, Nat.pow 2 (-q).toNat)

/-- The magnitude at a place, as a numerator and a denominator. -/
def magnitude (place : Nat) : Nat × Nat :=
  ratio (significand place) (scale place)

/-- The number a finite double stands for. -/
def toRat? : Binary64 → Option Rat
  | .finite negative place =>
    let (num, den) := magnitude place
    some (mkRat (if negative then -(num : Int) else num) den)
  | .infinite _ => none
  | .nan => none

def isFinite : Binary64 → Bool
  | .finite .. => true
  | _ => false

-- ---------------------------------------------------------------------------
-- Rounding
-- ---------------------------------------------------------------------------

/-- The natural nearest to `num / den`; of two equally near ones, the even one. -/
def roundHalfEven (num den : Nat) : Nat :=
  let q := num / den
  let r := num % den
  if 2 * r < den then q
  else if den < 2 * r then q + 1
  else if q % 2 = 0 then q else q + 1

/-- `num / den < 2 ^ e`. -/
def belowPower (num den : Nat) (e : Int) : Bool :=
  if 0 ≤ e then num < den * Nat.pow 2 e.toNat else num * Nat.pow 2 (-e).toNat < den

/-- The power of two of the last significand bit of `num / den`. -/
def lastBit (num den : Nat) : Int :=
  let e : Int := (num.log2 : Int) - den.log2
  max (-1074) ((if belowPower num den e then e - 1 else e) - 52)

/-- The double at a place, or the infinity when no finite one is left. -/
def ofPlace (negative : Bool) (place : Nat) : Binary64 :=
  if h : place < 9218868437227405312 then .finite negative ⟨place, h⟩
  else .infinite negative

/-- The double nearest to `num / den`, with the given sign. -/
def ofRatio (negative : Bool) (num den : Nat) : Binary64 :=
  if num = 0 then .finite negative 0
  else
    let q := lastBit num den
    let m := if 0 ≤ q then roundHalfEven num (den * Nat.pow 2 q.toNat)
      else roundHalfEven (num * Nat.pow 2 (-q).toNat) den
    ofPlace negative ((q + 1074).toNat * Nat.pow 2 52 + m)

/-- The double nearest to a rational number. -/
def ofRat (x : Rat) : Binary64 :=
  ofRatio (x.num < 0) x.num.natAbs x.den

/-- The double nearest to a whole number; `none` when it is too large for one. -/
def ofInt? (n : Int) : Option Binary64 :=
  match ofRatio (n < 0) n.natAbs 1 with
  | .finite negative place => some (.finite negative place)
  | _ => none

/-- The double nearest to `coefficient · 10 ^ exponent`. Beyond `10 ^ 400` every
    number rounds to infinity and below `10 ^ -400` to zero. -/
def ofDecimal (negative : Bool) (coefficient : Nat) (exponent : Int) : Binary64 :=
  let place : Int := (Nat.repr coefficient).length + exponent
  if coefficient = 0 then .finite negative 0
  else if 400 < place then .infinite negative
  else if place < -400 then .finite negative 0
  else if 0 ≤ exponent then ofRatio negative (coefficient * Nat.pow 10 exponent.toNat) 1
  else ofRatio negative coefficient (Nat.pow 10 (-exponent).toNat)

-- ---------------------------------------------------------------------------
-- Arithmetic
-- ---------------------------------------------------------------------------

def isNegative : Binary64 → Bool
  | .finite negative _ => negative
  | .infinite negative => negative
  | .nan => false

def abs : Binary64 → Binary64
  | .finite _ place => .finite false place
  | .infinite _ => .infinite false
  | .nan => .nan

/-- Difference. Equal operands give `+0`, except `-0 - +0`, which stays `-0`. -/
def sub : Binary64 → Binary64 → Binary64
  | .nan, _ => .nan
  | _, .nan => .nan
  | .infinite a, .infinite b => if a = b then .nan else .infinite a
  | .infinite a, .finite .. => .infinite a
  | .finite .., .infinite b => .infinite (!b)
  | x@(.finite a _), y@(.finite b _) =>
    let difference := x.toRat?.getD 0 - y.toRat?.getD 0
    if difference = 0 then .finite (a && !b) 0 else ofRat difference

/-- Product; its sign is negative when the operands' signs differ. -/
def mul (x y : Binary64) : Binary64 :=
  let negative := x.isNegative != y.isNegative
  match x, y with
  | .nan, _ => .nan
  | _, .nan => .nan
  | .infinite _, .finite _ place => if place.val = 0 then .nan else .infinite negative
  | .finite _ place, .infinite _ => if place.val = 0 then .nan else .infinite negative
  | .infinite _, .infinite _ => .infinite negative
  | .finite _ a, .finite _ b =>
    let (m, d) := magnitude a
    let (n, e) := magnitude b
    ofRatio negative (m * n) (d * e)

/-- The base of natural logarithms, rounded to a double. -/
def e : Binary64 := .finite false 4613303445314885481

end Binary64

end SqlDialects
