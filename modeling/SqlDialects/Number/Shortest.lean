-- SUMMARY: The shortest decimal that rounds back to a double, and fixed decimal places.
import SqlDialects.Number.Binary64

/-!
# Shortest decimals

For every count of digits from one to seventeen the two decimals of that many
digits around the magnitude are tried, and the first count with one that rounds
back to the same double wins; of two that round back, the nearer one. Seventeen
digits are always enough.
-/

namespace SqlDialects

/-- The decimal `coefficient · 10 ^ exponent`. -/
structure ShortDecimal where
  coefficient : Nat
  exponent : Int
  deriving DecidableEq

namespace ShortDecimal

/-- Strip trailing zeros of the coefficient, at most `fuel` of them. -/
def strip : Nat → ShortDecimal → ShortDecimal
  | 0, d => d
  | fuel + 1, d =>
    if d.coefficient ≠ 0 ∧ d.coefficient % 10 = 0 then
      strip fuel ⟨d.coefficient / 10, d.exponent + 1⟩
    else d

/-- The decimal digits, without trailing zeros. -/
def digits (d : ShortDecimal) : String := Nat.repr d.coefficient

/-- Where the decimal point stands, counted from before the first digit. -/
def point (d : ShortDecimal) : Int := d.digits.length + d.exponent

end ShortDecimal

namespace Binary64

/-- `num / den < 10 ^ e`. -/
def belowTen (num den : Nat) (e : Int) : Bool :=
  if 0 ≤ e then num < den * Nat.pow 10 e.toNat else num * Nat.pow 10 (-e).toNat < den

/-- The `p` with `10 ^ (p - 1) ≤ num / den < 10 ^ p`. -/
def decimalPoint (num den : Nat) : Int :=
  let e : Int := ((Nat.repr num).length : Int) - (Nat.repr den).length
  if belowTen num den e then e else e + 1

/-- The decimal with `count` digits that rounds back to the magnitude at `place`,
    if there is one: of two, the nearer, and the even one of two equally near. -/
def roundingBack? (place count : Nat) : Option ShortDecimal :=
  let (num, den) := magnitude place
  let exponent := decimalPoint num den - count
  let (n, d) := if 0 ≤ exponent then (num, den * Nat.pow 10 exponent.toNat)
    else (num * Nat.pow 10 (-exponent).toNat, den)
  let low := n / d
  let back (c : Nat) : Bool := ofPlace false place = ofDecimal false c exponent
  match back low, back (low + 1) with
  | true, true => some ⟨roundHalfEven n d, exponent⟩
  | true, false => some ⟨low, exponent⟩
  | false, true => some ⟨low + 1, exponent⟩
  | false, false => none

/-- The shortest decimal that rounds back to the magnitude at `place`. -/
def shortest (place : Nat) : ShortDecimal :=
  (((List.range 17).findSome? fun i => roundingBack? place (i + 1)).getD ⟨0, 0⟩).strip 20

-- ---------------------------------------------------------------------------
-- Layout
-- ---------------------------------------------------------------------------

/-- How the shortest digits of a number are laid out. -/
structure Layout where
  /-- The decimal point may stand at these places in positional writing. -/
  firstPoint : Int
  lastPoint : Int
  /-- The fewest digits of a written exponent. -/
  exponentDigits : Nat
  nan : String
  infinity : String

/-- Positional from a ten-thousandth up to sixteen digits before the point, a
    point in every positional number, and exponents of at least two digits. -/
def layout : Layout where
  firstPoint := -3
  lastPoint := 16
  exponentDigits := 2
  nan := "nan"
  infinity := "inf"

def padLeft (width : Nat) (digits : String) : String :=
  String.ofList (List.replicate (width - digits.length) '0') ++ digits

def signText (negative : Bool) : String := if negative then "-" else ""

/-- Digits around a decimal point: the point stands inside, before or behind. -/
def positional (digits : String) (point : Int) : String :=
  if point ≤ 0 then "0." ++ padLeft (digits.length + (-point).toNat) digits
  else
    let cs := digits.toList
    let whole := cs.take point.toNat
    let fraction := cs.drop point.toNat
    String.ofList (whole ++ List.replicate (point.toNat - cs.length) '0') ++ "." ++
      (if fraction = [] then "0" else String.ofList fraction)

/-- One digit, the others behind a point, and a signed exponent. -/
def scientific (l : Layout) (digits : String) (point : Int) : String :=
  let mantissa := match digits.toList with
    | [] => ""
    | [c] => String.singleton c
    | c :: rest => String.ofList (c :: '.' :: rest)
  let exponent := point - 1
  mantissa ++ (if exponent < 0 then "e-" else "e+") ++
    padLeft l.exponentDigits (Nat.repr exponent.natAbs)

/-- The text of a double in a given layout. -/
def textIn (l : Layout) : Binary64 → String
  | .nan => l.nan
  | .infinite negative => signText negative ++ l.infinity
  | .finite negative place =>
    let d := shortest place
    let d := if place.val = 0 then ⟨0, 0⟩ else d
    signText negative ++
      (if l.firstPoint ≤ d.point ∧ d.point ≤ l.lastPoint then positional d.digits d.point
       else scientific l d.digits d.point)

/-- The text of a double: the shortest that reads back. -/
def text (x : Binary64) : String := x.textIn layout

-- ---------------------------------------------------------------------------
-- Fixed places
-- ---------------------------------------------------------------------------

/-- The text with `places` digits behind the point, a half going to the even digit. -/
def fixedText (places : Nat) : Binary64 → String
  | .nan => layout.nan
  | .infinite negative => signText negative ++ layout.infinity
  | .finite negative place =>
    let (num, den) := magnitude place
    let scaled := roundHalfEven (num * Nat.pow 10 places) den
    let fraction := padLeft places (Nat.repr (scaled % Nat.pow 10 places))
    signText negative ++ Nat.repr (scaled / Nat.pow 10 places) ++
      (if places = 0 then "" else "." ++ fraction)

end Binary64

end SqlDialects
