-- SUMMARY: Decimal numbers that keep their written digits: text, exact value, order, and a difference rounded to a working precision.
import SqlDialects.Number.Binary64

/-!
# Decimal numbers

A finite decimal is `coefficient · 10 ^ exponent`, and `1.0` and `1.00` are two
of them. Beside the finite ones stand two infinities and the NaNs, which may
signal and carry a diagnostic number.
-/

namespace SqlDialects

inductive Decimal where
  | finite (negative : Bool) (coefficient : Nat) (exponent : Int)
  | infinite (negative : Bool)
  /-- A NaN; diagnostic `0` stands for none. -/
  | nan (negative signaling : Bool) (diagnostic : Nat)
  deriving DecidableEq, Inhabited

namespace Decimal

def isFinite : Decimal → Bool
  | .finite .. => true
  | _ => false

/-- The number a finite decimal stands for. -/
def toRat? : Decimal → Option Rat
  | .finite negative coefficient exponent =>
    let n : Int := if negative then -(coefficient : Int) else coefficient
    some (if 0 ≤ exponent then ((n * Nat.pow 10 exponent.toNat : Int) : Rat)
      else mkRat n (Nat.pow 10 (-exponent).toNat))
  | _ => none

-- ---------------------------------------------------------------------------
-- Text
-- ---------------------------------------------------------------------------

/-- Digits with the point `places` digits before their end, and a zero before a
    point that would stand first. -/
def withPoint (digits : String) (places : Nat) : String :=
  let cs := List.replicate (places + 1 - digits.length) '0' ++ digits.toList
  if places = 0 then String.ofList cs
  else String.ofList (cs.take (cs.length - places) ++ '.' :: cs.drop (cs.length - places))

/-- One digit before the point and a signed exponent. -/
def withExponent (digits : String) (exponent : Int) : String :=
  withPoint digits (digits.length - 1) ++
    (if exponent < 0 then "E-" else "E+") ++ Nat.repr exponent.natAbs

/-- A decimal is written positionally when it has no digit position to fill
    before the point and starts within six places behind it. -/
def text : Decimal → String
  | .finite negative coefficient exponent =>
    let digits := Nat.repr coefficient
    let leading : Int := exponent + digits.length - 1
    (if negative then "-" else "") ++
      (if exponent ≤ 0 ∧ -6 ≤ leading then withPoint digits (-exponent).toNat
       else withExponent digits leading)
  | .infinite negative => if negative then "-Infinity" else "Infinity"
  | .nan negative signaling diagnostic =>
    (if negative then "-" else "") ++ (if signaling then "sNaN" else "NaN") ++
      (if diagnostic = 0 then "" else Nat.repr diagnostic)

-- ---------------------------------------------------------------------------
-- Order
-- ---------------------------------------------------------------------------

/-- How many digits a natural is written with. -/
def digitCount (n : Nat) : Nat := (Nat.repr n).length

/-- Compare `m · 10 ^ e` with `n · 10 ^ f`. The places of the first digits decide;
    where they are the same, the exponents differ by no more than the numbers of
    digits do, and both sides are brought to the lower exponent. -/
def compareMagnitudes (m : Nat) (e : Int) (n : Nat) (f : Int) : Ordering :=
  if m = 0 ∨ n = 0 then Ord.compare m n
  else
    match Ord.compare (digitCount m + e) (digitCount n + f) with
    | .eq =>
      let low := min e f
      Ord.compare (m * Nat.pow 10 (e - low).toNat) (n * Nat.pow 10 (f - low).toNat)
    | order => order

/-- Compare finite decimals; both zeros are the same number. -/
def compareFinite (a : Bool) (m : Nat) (e : Int) (b : Bool) (n : Nat) (f : Int) : Ordering :=
  match a && m ≠ 0, b && n ≠ 0 with
  | false, false => compareMagnitudes m e n f
  | true, true => compareMagnitudes n f m e
  | true, false => .lt
  | false, true => .gt

/-- Compare the numbers that two decimals stand for; a NaN stands for none. -/
def compare? : Decimal → Decimal → Option Ordering
  | .nan .., _ => none
  | _, .nan .. => none
  | .infinite a, .infinite b => some (Ord.compare b a)
  | .infinite a, .finite .. => some (if a then .lt else .gt)
  | .finite .., .infinite b => some (if b then .gt else .lt)
  | .finite a m e, .finite b n f => some (compareFinite a m e b n f)

def isSignaling : Decimal → Bool
  | .nan _ signaling _ => signaling
  | _ => false

-- ---------------------------------------------------------------------------
-- Arithmetic
-- ---------------------------------------------------------------------------

/-- How many digits the result of an operation keeps. -/
def workingPrecision : Nat := 28

/-- The greatest exponent the first digit of a result may have. -/
def greatestExponent : Int := 999999

/-- The least exponent the last digit of a result may have. -/
def leastExponent : Int := -1000026

/-- Cut to the working precision and to the least exponent, a half going to the
    even digit; `none` when the result is too large. -/
def rounded? (negative : Bool) (coefficient : Nat) (exponent : Int) : Option Decimal :=
  let digits := digitCount coefficient
  let excess := (max ((digits : Int) - workingPrecision) (leastExponent - exponent)).toNat
  let kept := if digits < excess then 0 else Binary64.roundHalfEven coefficient (Nat.pow 10 excess)
  let (kept, exponent) :=
    if kept = Nat.pow 10 workingPrecision then
      (Nat.pow 10 (workingPrecision - 1), exponent + excess + 1)
    else (kept, exponent + excess)
  if kept ≠ 0 ∧ greatestExponent < exponent + digitCount kept - 1 then none
  else some (.finite negative kept exponent)

/-- The number with the other sign; zero has no negative. -/
def neg? : Decimal → Option Decimal
  | .finite negative coefficient exponent =>
    rounded? (!negative && coefficient ≠ 0) coefficient exponent
  | .infinite negative => some (.infinite (!negative))
  | .nan negative signaling diagnostic => some (.nan (!negative) signaling diagnostic)

/-- A whole number less a finite decimal; an infinity changes its sign and a NaN
    stays. -/
def subFrom? (n : Int) : Decimal → Option Decimal
  | .finite negative coefficient exponent =>
    let low := min exponent 0
    let minuend := n * Nat.pow 10 (-low).toNat
    let subtrahend : Int := (coefficient : Int) * Nat.pow 10 (exponent - low).toNat
    let difference := if negative then minuend + subtrahend else minuend - subtrahend
    rounded? (difference < 0) difference.natAbs low
  | .infinite negative => some (.infinite (!negative))
  | .nan negative signaling diagnostic => some (.nan negative signaling diagnostic)

end Decimal

/-- A finite double as a decimal of the same value: powers of two below one are
    powers of five by powers of ten. -/
def Binary64.toDecimal : Binary64 → Decimal
  | .finite negative place =>
    let m := significand place
    let q := scale place
    if 0 ≤ q then .finite negative (m * Nat.pow 2 q.toNat) 0
    else .finite negative (m * Nat.pow 5 (-q).toNat) q
  | .infinite negative => .infinite negative
  | .nan => .nan false false 0

end SqlDialects
